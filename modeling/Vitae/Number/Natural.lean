/-!
# Natural Numbers in Decimal

A natural number is written as a run of digits, with a plus sign in front of it
if one likes. Zeros in front do not matter. A number is only read if a machine
word of the given width holds it.

## Main definitions

* `Natural.ofDigits?`: The number a run of digits denotes.
* `Natural.parse?`: The number a list of characters denotes.

## Theorems

* `Natural.lt_of_parse?`: What is read fits into the word.
-/

namespace Vitae

namespace Natural

/-- The number that a run of digits denotes, if it is one and a word of `width`
bits holds it. -/
def ofDigits? (width : Nat) (digits : List Char) : Option Nat :=
  if digits.isEmpty || !digits.all Char.isDigit then none
  else
    let n := digits.foldl (fun n c => n * 10 + (c.toNat - '0'.toNat)) 0
    if n < Nat.pow 2 width then some n else none

/-- The number that a list of characters denotes, if it denotes one and a word
of `width` bits holds it. -/
def parse? (width : Nat) : List Char → Option Nat
  | '+' :: digits => ofDigits? width digits
  | digits => ofDigits? width digits

/-- What is read from digits fits into the word. -/
theorem lt_of_ofDigits? {width n : Nat} {digits : List Char}
    (h : ofDigits? width digits = some n) : n < Nat.pow 2 width := by
  unfold ofDigits? at h
  split at h
  · cases h
  · simp only [] at h
    split at h
    · next hlt => cases h; exact hlt
    · cases h

theorem lt_of_parse? {width n : Nat} {cs : List Char} (h : parse? width cs = some n) :
    n < Nat.pow 2 width := by
  unfold parse? at h
  split at h <;> exact lt_of_ofDigits? h

end Natural

end Vitae
