/-!
# Shortest Decimals

The decimal text of a double-precision number: the fewest digits that still
read back as the same number, and of those the nearest.

A finite number other than zero is `m * 2 ^ q` with natural `m`. The reals that
round to it form an interval around it, whose ends belong to it exactly when
`m` is even. A decimal grid of step `10 ^ k` has two points next to the number,
one on either side; if any point of the grid lies in the interval, one of these
two does. So the search tries coarse grids first, looks only at the two
neighbours, and takes the first grid with a hit. Everything is exact arithmetic
on natural numbers.

How the digits are laid out is a separate decision. A decimal point is written
as long as it stands among the digits or near them, and an exponent, always
with its sign, outside that range.

## Main definitions

* `Binary`: A positive number `m * 2 ^ q`.
* `Binary.shortest`: The digits and the decimal exponent of a number.
* `layout`: Digits and exponent as text.
* `text`: A number as text.
-/

namespace Vitae

namespace Shortest

/-- A positive binary number `mantissa * 2 ^ exponent`. -/
structure Binary where
  mantissa : Nat
  exponent : Int
  /-- Whether the neighbour below is only half as far away as the one above,
  as it is for a power of two. -/
  tightBelow : Bool

/-- The number as a fraction, scaled by four so that the ends of its interval
are whole as well: four times the number is `numerator / denominator`. -/
def Binary.scaled (x : Binary) : Nat × Nat :=
  if 0 ≤ x.exponent then (4 * x.mantissa * Nat.pow 2 x.exponent.toNat, 1)
  else (4 * x.mantissa, Nat.pow 2 (-x.exponent).toNat)

/-- Four times half the distance to the neighbours above and below, over the
same denominator. -/
def Binary.reach (x : Binary) : Nat × Nat :=
  let unit := if 0 ≤ x.exponent then Nat.pow 2 x.exponent.toNat else 1
  (2 * unit, if x.tightBelow then unit else 2 * unit)

/-- The point `n * 10 ^ k` rounds to the number: it is no farther away than the
number's interval reaches, and the ends count for an even mantissa. -/
def Binary.holds (x : Binary) (n : Nat) (k : Int) : Bool :=
  let (num, den) := x.scaled
  let (above, below) := x.reach
  -- Both sides over the common denominator `den` and power of ten.
  let point := 4 * n * den * Nat.pow 10 k.toNat
  let scale := Nat.pow 10 (-k).toNat
  let value := num * scale
  let low := value - below * scale
  let high := value + above * scale
  if x.mantissa % 2 == 0 then low ≤ point && point ≤ high else low < point && point < high

/-- The point of the grid of step `10 ^ k` just below the number. -/
def Binary.floorAt (x : Binary) (k : Int) : Nat :=
  let (num, den) := x.scaled
  (num * Nat.pow 10 (-k).toNat) / (4 * den * Nat.pow 10 k.toNat)

/-- The grid point nearest to the number among the two next to it, if one of
them rounds to it. Of two that do, the nearer is taken, and of two equally near
the even one. -/
def Binary.onGrid (x : Binary) (k : Int) : Option Nat :=
  let n := x.floorAt k
  let down := decide (0 < n) && x.holds n k
  let up := x.holds (n + 1) k
  if down && up then
    let (num, den) := x.scaled
    let value := num * Nat.pow 10 (-k).toNat
    let step := 4 * den * Nat.pow 10 k.toNat
    let below := value - n * step
    let above := (n + 1) * step - value
    if below < above then some n
    else if above < below then some (n + 1)
    else if n % 2 == 0 then some n else some (n + 1)
  else if down then some n
  else if up then some (n + 1)
  else none

/-- The first grid with a hit, from the step `10 ^ k` on and finer. -/
def Binary.search (x : Binary) : Nat → Int → Nat × Int
  | 0, k => (x.floorAt k, k)
  | fuel + 1, k =>
    match x.onGrid k with
    | some n => (n, k)
    | none => x.search fuel (k - 1)

/-- The digits without trailing zeros, with the exponent adjusted. -/
def stripZeros : Nat → Nat → Int → Nat × Int
  | 0, n, k => (n, k)
  | fuel + 1, n, k =>
    if n ≠ 0 ∧ n % 10 = 0 then stripZeros fuel (n / 10) (k + 1) else (n, k)

/-- The shortest decimal `n * 10 ^ k` that rounds to the number. No double is
as large as `10 ^ 309` or needs digits behind `10 ^ (-342)`. -/
def Binary.shortest (x : Binary) : Nat × Int :=
  let (n, k) := x.search 652 309
  stripZeros 20 n k

/-- Digits and decimal exponent as text. The point stays near the digits while
the leading digit is worth at least `10 ^ (-5)` and less than `10 ^ 16`.
Otherwise the exponent is written out, with two digits at least. -/
def layout (n : Nat) (k : Int) : String :=
  let digits := Nat.toDigits 10 n
  let count : Int := digits.length
  let lead := count + k
  if 0 ≤ k && lead ≤ 16 then
    String.ofList (digits ++ List.replicate k.toNat '0' ++ ['.', '0'])
  else if 0 < lead && lead ≤ 16 then
    String.ofList (digits.take lead.toNat ++ '.' :: digits.drop lead.toNat)
  else if -5 < lead && lead ≤ 0 then
    String.ofList (['0', '.'] ++ List.replicate (-lead).toNat '0' ++ digits)
  else
    let mantissa :=
      match digits with
      | [] => []
      | [d] => [d]
      | d :: rest => d :: '.' :: rest
    let exponent := lead - 1
    let sign := if exponent < 0 then '-' else '+'
    let size := Nat.toDigits 10 exponent.natAbs
    let size := if size.length < 2 then '0' :: size else size
    String.ofList (mantissa ++ ['e', sign] ++ size)

/-- A double as text: the fewest digits that read back, with a point or an
exponent in every case, so that it is never mistaken for an integer. -/
def text (x : Float) : String :=
  let bits : Nat := x.toBits.toNat
  let sign := if bits / Nat.pow 2 63 == 1 then "-" else ""
  let exponent : Nat := bits / Nat.pow 2 52 % Nat.pow 2 11
  let fraction : Nat := bits % Nat.pow 2 52
  if exponent == 2047 then if fraction == 0 then sign ++ "inf" else "NaN"
  else if exponent == 0 && fraction == 0 then sign ++ "0.0"
  else
    let binary : Binary :=
      if exponent == 0 then ⟨fraction, -1074, false⟩
      else ⟨Nat.pow 2 52 + fraction, (exponent : Int) - 1075, fraction == 0 && 1 < exponent⟩
    let (n, k) := binary.shortest
    sign ++ layout n k

end Shortest

end Vitae
