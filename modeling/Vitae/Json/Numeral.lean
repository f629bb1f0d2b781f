import Vitae.Text.Utf8
import Vitae.Json.Value

/-!
# Numerals

Reading a number off the front of a JSON text. The first seventeen to twenty
digits are kept in a significand as large as a machine word; digits that no
longer fit only move the decimal exponent. A numeral with neither a point nor
an exponent whose significand holds all digits is a whole number, everything
else a double. The double is the significand times a power of ten, computed
with a single rounding where the exponent allows it, and a numeral too large
for a double is refused.

## Main definitions

* `absorb`: Digits taken into a significand until it is full.
* `scale`: A significand times a power of ten, as a double.
* `numeral`: A number read off the front of a text.
-/

namespace Vitae

namespace Json

def isDigit (b : UInt8) : Bool :=
  0x30 ≤ b && b ≤ 0x39

/-- The digits at the front of a text. -/
def leadingDigits (bytes : Bytes) : List Nat :=
  (bytes.takeWhile isDigit).map (fun b => b.toNat - 0x30)

/-- A text without the digits at its front. -/
def afterDigits (bytes : Bytes) : Bytes :=
  bytes.dropWhile isDigit

/-- Takes digits into a significand until one no longer fits a machine word.
The second component counts the digits that were left out. -/
def absorb (significand : Nat) : List Nat → Nat × Nat
  | [] => (significand, 0)
  | d :: ds =>
    let next := significand * 10 + d
    if next < Nat.pow 2 64 then absorb next ds else (significand, ds.length + 1)

/-- A nonnegative double divided by a power of ten. Powers beyond the range of
a double are taken in several steps. -/
def shrink (x : Float) (n : Nat) : Float :=
  if n ≤ 308 then x / Float.ofScientific 1 false n
  else if x == 0 then x
  else shrink (x / Float.ofScientific 1 false 308) (n - 308)
termination_by n

/-- A significand times a power of ten, unless it is too large for a double. -/
def scale (significand : Nat) (exponent : Int) : Except Fault Float :=
  let x := (UInt64.ofNat significand).toFloat
  if exponent < 0 then .ok (shrink x exponent.natAbs)
  else if exponent ≤ 308 then
    let product := x * Float.ofScientific 1 false exponent.toNat
    if product.isInf then .error .numberTooLarge else .ok product
  else if significand == 0 then .ok x
  else .error .numberTooLarge

def signed (negative : Bool) (x : Float) : Number :=
  .real (if negative then -x else x)

/-- Reads what follows the mark of an exponent, and finishes the number. -/
def exponentPart (negative : Bool) (significand : Nat) (exponent : Int) (bytes : Bytes) :
    Except Fault (Number × Bytes) :=
  let (down, digits) :=
    match bytes with
    | 0x2B :: rest => (false, rest)
    | 0x2D :: rest => (true, rest)
    | _ => (false, bytes)
  match digits with
  | [] => .error .endInValue
  | b :: _ =>
    if !isDigit b then .error .badNumber
    else
      let shift : Nat := (leadingDigits digits).foldl (fun n d => n * 10 + d) 0
      let rest := afterDigits digits
      if Nat.pow 2 31 ≤ shift then
        if significand != 0 && !down then .error .numberTooLarge
        else .ok (signed negative 0, rest)
      else do
        let x ← scale significand (if down then exponent - (shift : Int) else exponent + (shift : Int))
        .ok (signed negative x, rest)

/-- Finishes a number that is not whole, at the place where an exponent may
stand. -/
def finishReal (negative : Bool) (significand : Nat) (exponent : Int) (bytes : Bytes) :
    Except Fault (Number × Bytes) :=
  match bytes with
  | 0x65 :: rest | 0x45 :: rest => exponentPart negative significand exponent rest
  | _ => do
    let x ← scale significand exponent
    .ok (signed negative x, bytes)

/-- Finishes a number behind its integer digits, of which `dropped` did not fit
the significand. -/
def finishNumeral (negative : Bool) (significand dropped : Nat) (bytes : Bytes) :
    Except Fault (Number × Bytes) :=
  match bytes with
  | 0x2E :: rest =>
    match leadingDigits rest with
    | [] => .error (if rest.isEmpty then .endInValue else .badNumber)
    | digits =>
      let (full, left) := absorb significand digits
      let exponent : Int := dropped - ((digits.length : Int) - left)
      finishReal negative full exponent (afterDigits rest)
  | 0x65 :: _ | 0x45 :: _ => finishReal negative significand dropped bytes
  | _ =>
    if dropped != 0 then finishReal negative significand dropped bytes
    else if !negative then .ok (.whole significand, bytes)
    else if significand != 0 && significand ≤ Nat.pow 2 63 then .ok (.whole (-significand), bytes)
    else .ok (.real (-(UInt64.ofNat significand).toFloat), bytes)

/-- Reads a number behind its sign. A leading zero stands alone. -/
def magnitude (negative : Bool) (bytes : Bytes) : Except Fault (Number × Bytes) :=
  match bytes with
  | [] => .error .endInValue
  | b :: rest =>
    if b == 0x30 then
      if (rest.head?.map isDigit).getD false then .error .badNumber
      else finishNumeral negative 0 0 rest
    else if isDigit b then
      let (significand, dropped) := absorb 0 (leadingDigits bytes)
      finishNumeral negative significand dropped (afterDigits bytes)
    else .error .badNumber

def numeral (bytes : Bytes) : Except Fault (Number × Bytes) :=
  match bytes with
  | 0x2D :: rest => magnitude true rest
  | _ => magnitude false bytes

end Json

end Vitae
