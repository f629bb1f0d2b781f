import Vitae.Text.Blank

/-!
# Timestamps

A moment as it is written in a record: a date, a time and the distance from
universal time. The form is read leniently. Spaces may stand between the numbers
of the date and of the time, one digit is enough for each of them, and a space
may take the place of the letter between the two.

Only whether a text is a moment matters here; a moment that does not exist, such
as a thirtieth of February, is none.

## Main definitions

* `TimeFault`: Why a text is no moment.
* `Moment`: The numbers of a moment.
* `Moment.check`: Whether the moment exists.
* `checkTimestamp`: Whether a text is a moment.
-/

namespace Vitae

/-- Why a text is no moment. -/
inductive TimeFault where
  | tooShort
  | invalid
  | outOfRange
  | tooLong
  | impossible
deriving DecidableEq, Repr

/-- Why a text is no moment, in words. -/
def TimeFault.message : TimeFault → String
  | .tooShort => "premature end of input"
  | .invalid => "input contains invalid characters"
  | .outOfRange => "input is out of range"
  | .tooLong => "trailing input"
  | .impossible => "no possible date and time matching input"

/-- The numbers of a moment. -/
structure Moment where
  year : Int
  month : Nat
  day : Nat
  hour : Nat
  minute : Nat
  second : Nat
  /-- The distance from universal time in seconds. -/
  offset : Int
deriving DecidableEq, Repr

namespace Moment

/-- The first year that dates can be in. -/
def firstYear : Int := -262143

/-- The last year that dates can be in. -/
def lastYear : Int := 262142

def isLeap (year : Int) : Bool :=
  year % 4 == 0 && (year % 100 != 0 || year % 400 == 0)

def daysIn (year : Int) (month : Nat) : Nat :=
  if month == 2 then (if isLeap year then 29 else 28)
  else if [4, 6, 9, 11].contains month then 30
  else 31

/-- Whether the moment exists, in the place where it was written down and in
universal time. -/
def check (m : Moment) : Except TimeFault Unit :=
  let seconds : Int := (m.hour * 3600 + m.minute * 60 + m.second.min 59 : Nat) - m.offset
  if m.year < firstYear || lastYear < m.year || daysIn m.year m.month < m.day ||
      86400 ≤ m.offset.natAbs then .error .outOfRange
  else if (m.year == firstYear && m.month == 1 && m.day == 1 && seconds < 0) ||
      (m.year == lastYear && m.month == 12 && m.day == 31 && 86400 ≤ seconds) then
    .error .impossible
  else .ok ()

end Moment

namespace Timestamp

/-- A list of characters without the spaces in front. -/
def skipSpaces (cs : List Char) : List Char :=
  cs.dropWhile Text.isSpace

/-- Reads a number of at most `width` digits. -/
def number (width : Nat) (cs : List Char) : Except TimeFault (Nat × List Char) :=
  let digits := (cs.takeWhile Char.isDigit).take width
  if digits.isEmpty then .error (if cs.isEmpty then .tooShort else .invalid)
  else
    .ok (digits.foldl (fun n c => n * 10 + (c.toNat - '0'.toNat)) 0, cs.drop digits.length)

/-- Reads a number of at most two digits, which must lie within bounds. -/
def bounded (least greatest : Nat) (cs : List Char) : Except TimeFault (Nat × List Char) := do
  let (n, rest) ← number 2 (skipSpaces cs)
  if least ≤ n && n ≤ greatest then .ok (n, rest) else .error .outOfRange

def mark (c : Char) (cs : List Char) : Except TimeFault (List Char) :=
  match skipSpaces cs with
  | [] => .error .tooShort
  | d :: rest => if d = c then .ok rest else .error .invalid

/-- Reads a year. With a sign in front it may have any number of digits. -/
def year (cs : List Char) : Except TimeFault (Int × List Char) := do
  let signed (negative : Bool) (rest : List Char) : Except TimeFault (Int × List Char) := do
    let (n, rest) ← number rest.length rest
    let value : Int := if negative then -n else n
    if value < -Int.pow 2 31 || Int.pow 2 31 ≤ value then .error .outOfRange
    else .ok (value, rest)
  match skipSpaces cs with
  | '-' :: rest => signed true rest
  | '+' :: rest => signed false rest
  | rest =>
    let (n, rest) ← number 4 rest
    .ok (n, rest)

/-- Passes a fraction of a second, if there is one. -/
def fraction (cs : List Char) : Except TimeFault (List Char) :=
  match cs with
  | '.' :: rest => do
    let (_, rest) ← number 9 rest
    .ok (rest.dropWhile Char.isDigit)
  | _ => .ok cs

def twoDigits (cs : List Char) : Except TimeFault (Nat × List Char) :=
  match cs with
  | [] => .error .tooShort
  | [c] => .error (if c.utf8Size < 2 then .tooShort else .invalid)
  | a :: b :: rest =>
    if a.isDigit && b.isDigit then
      .ok ((a.toNat - '0'.toNat) * 10 + (b.toNat - '0'.toNat), rest)
    else .error .invalid

/-- Reads the size of the distance from universal time, in seconds. -/
def distance (cs : List Char) : Except TimeFault (Nat × List Char) := do
  let (hours, rest) ← twoDigits cs
  let (minutes, rest) ← twoDigits (rest.dropWhile (fun c => c == ':' || Text.isSpace c))
  if minutes < 60 then .ok (hours * 3600 + minutes * 60, rest) else .error .outOfRange

/-- Reads the distance from universal time. -/
def offset (cs : List Char) : Except TimeFault (Int × List Char) :=
  match cs with
  | [] => .error .tooShort
  | c :: rest =>
    if (cs.take 3).map Char.toLower = ['u', 't', 'c'] then .ok (0, cs.drop 3)
    else if c = 'Z' ∨ c = 'z' then .ok (0, rest)
    else if c = '+' then (distance rest).map (fun (n, rest) => ((n : Int), rest))
    else if c = '-' ∨ c = '\u2212' then (distance rest).map (fun (n, rest) => (-(n : Int), rest))
    else .error .invalid

/-- Reads what may stand between the date and the time. -/
def divider (cs : List Char) : Except TimeFault (List Char) :=
  match cs with
  | [] => .error .tooShort
  | c :: rest => if c = 'T' ∨ c = 't' ∨ c = ' ' then .ok rest else .error .invalid

def moment (cs : List Char) : Except TimeFault (Moment × List Char) := do
  let (year, cs) ← year cs
  let (month, cs) ← bounded 1 12 (← mark '-' cs)
  let (day, cs) ← bounded 1 31 (← mark '-' cs)
  let (hour, cs) ← bounded 0 23 (← divider cs)
  let (minute, cs) ← bounded 0 59 (← mark ':' cs)
  let (second, cs) ← bounded 0 60 (← mark ':' cs)
  let (offset, cs) ← offset (skipSpaces (← fraction cs))
  .ok (⟨year, month, day, hour, minute, second, offset⟩, cs)

end Timestamp

def checkTimestamp (text : String) : Except TimeFault Unit := do
  let (m, rest) ← Timestamp.moment text.toList
  if (Timestamp.skipSpaces rest).isEmpty then m.check else .error .tooLong

end Vitae
