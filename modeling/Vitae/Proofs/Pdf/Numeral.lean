import Mathlib.Algebra.Group.Nat.Defs
import Vitae.Pdf.File
import Vitae.Proofs.Pdf.Token
import Vitae.Proofs.Text.Ascii

/-!
# Numerals in a File

Every number in a file, be it the number of an object, a length or a coordinate, is
a word of few characters. None of them ends a word, so a numeral is one token, and
none of the words that open an object or a reference is made of them, so a numeral
is never mistaken for one.

Floats that are no numbers count too: their texts are words like any other.

## Main definitions

* `isNumeralChar`: The characters that numbers are written with.
* `IsNumeral`: A word of such characters.

## Theorems

* `isNumeral_decimal`: A number in decimal is a numeral.
* `isNumeral_number`: The text of a float is a numeral, whatever the float is.
* `IsNumeral.run`: A numeral is one token.
* `ofDigitChars_decimal`: A number can be read back from its digits.
* `length_decimal_le`: Ten digits are enough below ten to the tenth.
-/

namespace Vitae

namespace Pdf

/-- The characters other than digits that numbers are written with, those of infinities
included. -/
def numeralMarks : List Char := ['-', '.', 'N', 'a', 'i', 'n', 'f']

/-- The characters that numbers are written with. -/
def isNumeralChar (c : Char) : Bool :=
  c.isDigit || numeralMarks.contains c

/-- A word of the characters that numbers are written with. -/
structure IsNumeral (cs : List Char) : Prop where
  ne_nil : cs ≠ []
  all : cs.all isNumeralChar = true

theorem isNumeralChar_of_isDigit {c : Char} (h : c.isDigit = true) : isNumeralChar c = true := by
  rw [isNumeralChar, h, Bool.true_or]

theorem isRegular_of_isNumeralChar {c : Char} (h : isNumeralChar c = true) :
    isRegular c = true := by
  -- No gap and no delimiter is a character of a numeral.
  have hother : (gaps ++ delimiters).all (fun d => !isNumeralChar d) = true := rfl
  have hnot : c ∉ gaps ++ delimiters := by
    intro hc
    have hc := List.all_eq_true.mp hother c hc
    rw [h] at hc
    exact Bool.false_ne_true hc
  rw [List.mem_append, not_or] at hnot
  simp only [isRegular, isGap, isDelimiter, List.contains_iff_mem, Bool.and_eq_true,
    Bool.not_eq_true', ← Bool.not_eq_true]
  exact hnot

theorem visible_of_isNumeralChar {c : Char} (h : isNumeralChar c = true) :
    32 ≤ c.toNat ∧ c.toNat < 127 := by
  have hmarks : Visible numeralMarks := by decide
  rw [isNumeralChar, Bool.or_eq_true] at h
  rcases h with h | h
  · have hdigit := Char.isDigit_iff_toNat.mp h
    exact ⟨Nat.le_trans (by decide) hdigit.1, Nat.lt_of_le_of_lt hdigit.2 (by decide)⟩
  · exact hmarks c (List.contains_iff_mem.mp h)

namespace IsNumeral

theorem chars {cs : List Char} (h : IsNumeral cs) : ∀ c ∈ cs, isNumeralChar c = true :=
  List.all_eq_true.mp h.all

theorem append {xs ys : List Char} (hxs : IsNumeral xs) (hys : ys.all isNumeralChar = true) :
    IsNumeral (xs ++ ys) where
  ne_nil := List.append_ne_nil_of_left_ne_nil hxs.ne_nil ys
  all := by rw [List.all_append, hxs.all, hys, Bool.true_and]

theorem cons {c : Char} (hc : isNumeralChar c = true) {cs : List Char} (h : IsNumeral cs) :
    IsNumeral (c :: cs) where
  ne_nil := List.cons_ne_nil c cs
  all := by rw [List.all_cons, hc, h.all, Bool.true_and]

theorem visible {cs : List Char} (h : IsNumeral cs) : Visible cs :=
  fun c hc => visible_of_isNumeralChar (h.chars c hc)

/-- A numeral is no word that holds another character. -/
theorem ne_of_mem {cs word : List Char} (h : IsNumeral cs) {c : Char} (hc : c ∈ word)
    (hother : isNumeralChar c = false) : cs ≠ word := by
  intro heq
  rw [← heq] at hc
  rw [h.chars c hc] at hother
  exact Bool.false_ne_true hother.symm

/-- A numeral is one token, which ends in front of a character that is not regular. -/
theorem run {cs : List Char} (h : IsNumeral cs) {c : Char} (hc : isRegular c = false)
    (rest : List Char) :
    Lexer.gap.run (cs ++ c :: rest) =
      (.word cs :: (Lexer.gap.run (c :: rest)).1, (Lexer.gap.run (c :: rest)).2) :=
  Lexer.run_word h.ne_nil (fun d hd => isRegular_of_isNumeralChar (h.chars d hd)) hc rest

end IsNumeral

theorem isDigit_of_mem_decimal {n : Nat} {c : Char} (h : c ∈ decimal n) : c.isDigit = true :=
  Nat.isDigit_of_mem_toDigits (by decide) (by decide) h

theorem isNumeral_decimal (n : Nat) : IsNumeral (decimal n) where
  ne_nil := Nat.toDigits_ne_nil
  all := List.all_eq_true.mpr fun _ h => isNumeralChar_of_isDigit (isDigit_of_mem_decimal h)

theorem ofDigitChars_decimal (n : Nat) : Nat.ofDigitChars 10 (decimal n) 0 = n :=
  Nat.ofDigitChars_ten_toDigits

theorem length_decimal_le {n : Nat} (h : n < 10 ^ 10) : (decimal n).length ≤ 10 :=
  (Nat.length_toDigits_le_iff (by decide) (by decide)).mpr h

theorem isNumeral_tenDigits (n : Nat) : IsNumeral (tenDigits n) where
  ne_nil := List.append_ne_nil_of_right_ne_nil _ (isNumeral_decimal n).ne_nil
  all := by
    -- In front of the digits are zeros, which are digits as well.
    rw [tenDigits, List.all_append, (isNumeral_decimal n).all, Bool.and_true, List.all_eq_true]
    intro c hc
    rw [(List.mem_replicate.mp hc).2]
    rfl

theorem isNumeral_decimalText (n : Nat) : IsNumeral (decimalText n) := by
  have hdigit : ∀ k, k < 10 → isNumeralChar k.digitChar = true := by decide
  have hfraction : ∀ c ∈ ([n / 100 % 10, n / 10 % 10, n % 10].map Nat.digitChar),
      isNumeralChar c = true := by
    intro c hc
    rcases List.mem_map.mp hc with ⟨k, hk, rfl⟩
    simp only [List.mem_cons, List.not_mem_nil, or_false] at hk
    rcases hk with rfl | rfl | rfl <;> exact hdigit _ (Nat.mod_lt _ (by decide))
  unfold decimalText
  simp only
  split
  · exact isNumeral_decimal (n / 1000)
  · -- What is left of the fraction are digits of it.
    refine (isNumeral_decimal (n / 1000)).append (List.all_eq_true.mpr ?_)
    refine List.forall_mem_cons.mpr ⟨rfl, fun c hc => ?_⟩
    have hmem := (List.dropWhile_sublist _).mem (List.mem_reverse.mp hc)
    exact hfraction c (List.mem_reverse.mp hmem)

theorem isNumeral_signed (negative : Prop) [Decidable negative] (n : Nat) :
    IsNumeral (if negative then '-' :: decimalText n else decimalText n) := by
  split
  · exact (isNumeral_decimalText n).cons rfl
  · exact isNumeral_decimalText n

/-- The text of a float is a numeral, whatever the float is. -/
theorem isNumeral_number (x : Float32) : IsNumeral (number x) := by
  unfold number bitsText
  simp only
  split
  · split
    · exact ⟨List.cons_ne_nil _ _, rfl⟩
    · split
      · exact ⟨List.cons_ne_nil _ _, rfl⟩
      · exact ⟨List.cons_ne_nil _ _, rfl⟩
  · exact isNumeral_signed _ _

end Pdf

end Vitae
