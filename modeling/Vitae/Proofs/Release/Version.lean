import Mathlib.Algebra.Group.Nat.Defs
import Mathlib.Tactic.SplitIfs
import Vitae.Proofs.Text.Trim
import Vitae.Proofs.Text.Words
import Vitae.Release.Version

/-!
# The Order of Versions

Versions are compared number by number, which is the order of one large number
(`lt_iff_rank_lt`), so that they are totally ordered and the later of two is no earlier
than either. A version that is written down and read again is the same version
(`parse?_text`): nothing about it is lost in a record.

## Main definitions

* `Version.rank`: The place of a version in the order.

## Theorems

* `Natural.parse?_toDigits`: A number is read back from its digits.
* `Version.parse?_text`: A version is read back from its text.
* `Version.lt_iff_rank_lt`, `Version.le_iff_rank_le`: The order is that of the places.
* `Version.le_max_left`, `Version.le_max_right`, `Version.max_eq_or`: The later of two versions.
-/

namespace Vitae

namespace Natural

theorem foldl_digits (digits : List Char) (n : Nat) :
    digits.foldl (fun n c => n * 10 + (c.toNat - '0'.toNat)) n = Nat.ofDigitChars 10 digits n := by
  rw [Nat.ofDigitChars]
  congr 1
  funext k c
  rw [Nat.mul_comm]

theorem isDigit_toDigits {n : Nat} {c : Char} (h : c ∈ Nat.toDigits 10 n) : c.isDigit = true :=
  Nat.isDigit_of_mem_toDigits (by decide) (by decide) h

/-- A number is read back from its digits if a machine word holds it. -/
theorem parse?_toDigits {width n : Nat} (h : n < 2 ^ width) :
    parse? width (Nat.toDigits 10 n) = some n := by
  have hdigits : ofDigits? width (Nat.toDigits 10 n) = some n := by
    have hall : (Nat.toDigits 10 n).all Char.isDigit = true :=
      List.all_eq_true.mpr fun _ hc => isDigit_toDigits hc
    have hsome : (Nat.toDigits 10 n).isEmpty = false :=
      List.isEmpty_eq_false_iff.mpr Nat.toDigits_ne_nil
    simp only [ofDigits?, hall, hsome, Bool.not_true, Bool.or_self, Bool.false_eq_true, if_false,
      foldl_digits, Nat.ofDigitChars_ten_toDigits]
    exact if_pos h
  unfold parse?
  split
  · -- A digit is no plus sign.
    rename_i digits heq
    have hplus := isDigit_toDigits (n := n) (heq ▸ List.mem_cons_self)
    cases hplus
  · exact hdigits

end Natural

namespace Version

/-! ### Reading back -/

/-- The digits of one part of a version. -/
abbrev digits (part : UInt32) : List Char :=
  Nat.toDigits 10 part.toNat

theorem toList_text (v : Version) :
    v.text.toList = digits v.major ++ '.' :: (digits v.minor ++ '.' :: digits v.patch) := by
  have hpart : ∀ part : UInt32, (toString part.toNat).toList = digits part := fun part =>
    String.toList_ofList
  have hdot : (".").toList = ['.'] := rfl
  unfold text
  simp only [String.toList_append, hpart, hdot, List.append_assoc, List.cons_append,
    List.nil_append]

theorem part?_digits (part : UInt32) : part? (digits part) = some part := by
  rw [part?, Natural.parse?_toDigits part.toNat_lt]
  exact congrArg some UInt32.ofNat_toNat

/-- A version is written with digits and dots. -/
theorem isDigit_or_eq_of_mem_text {v : Version} {c : Char} (h : c ∈ v.text.toList) :
    c.isDigit = true ∨ c = '.' := by
  rw [toList_text] at h
  simp only [List.mem_append, List.mem_cons] at h
  rcases h with h | h | h | h | h
  · exact .inl (Natural.isDigit_toDigits h)
  · exact .inr h
  · exact .inl (Natural.isDigit_toDigits h)
  · exact .inr h
  · exact .inl (Natural.isDigit_toDigits h)

theorem notCut_of_isDigit {c : Char} (h : c.isDigit = true) : (c == '.') = false := by
  rw [← Bool.not_eq_true, beq_iff_eq]
  rintro rfl
  cases h

theorem solid_of_isDigit {c : Char} (h : c.isDigit = true) : Text.isSpace c = false := by
  have hdigit : 48 ≤ c.toNat ∧ c.toNat ≤ 57 := Char.isDigit_iff_toNat.mp h
  simp only [Text.isSpace, Bool.or_eq_false_iff, Bool.and_eq_false_iff, beq_eq_false_iff_ne,
    decide_eq_false_iff_not, ne_eq]
  omega

theorem ofChars?_parts (v : Version) :
    ofChars? (digits v.major ++ '.' :: (digits v.minor ++ '.' :: digits v.patch)) = some v := by
  have hpieces : ∀ part, Text.pieces (· == '.') (digits part) = [digits part] := fun part =>
    Text.pieces_of_uncut _ _ fun _ hc => notCut_of_isDigit (Natural.isDigit_toDigits hc)
  have hmark : withoutMark (digits v.major ++ '.' :: (digits v.minor ++ '.' :: digits v.patch)) =
      digits v.major ++ '.' :: (digits v.minor ++ '.' :: digits v.patch) := by
    unfold withoutMark
    split
    · -- A version begins with a digit.
      rename_i rest heq
      cases hdigits : digits v.major with
      | nil => exact absurd hdigits Nat.toDigits_ne_nil
      | cons c cs =>
        rw [hdigits] at heq
        cases heq
        have hdigit := Natural.isDigit_toDigits (n := v.major.toNat) (hdigits ▸ List.mem_cons_self)
        cases hdigit
    · rfl
  rw [ofChars?, hmark, Text.pieces_append_cut _ rfl, Text.pieces_append_cut _ rfl, hpieces, hpieces,
    hpieces]
  simp only [List.singleton_append, part?_digits]
  rfl

/-- A version is read back from its text. -/
theorem parse?_text (v : Version) : parse? v.text = some v := by
  have hsolid : ∀ c ∈ v.text.toList, Text.isSpace c = false := by
    intro c hc
    rcases isDigit_or_eq_of_mem_text hc with hdigit | rfl
    · exact solid_of_isDigit hdigit
    · rfl
  rw [parse?, Text.trimChars_of_solid hsolid, toList_text, ofChars?_parts]

/-! ### The order -/

/-- The place of a version in the order. -/
def rank (v : Version) : Nat :=
  (v.major.toNat * 2 ^ 32 + v.minor.toNat) * 2 ^ 32 + v.patch.toNat

theorem lt_iff_rank_lt {v w : Version} : v.lt w = true ↔ v.rank < w.rank := by
  obtain ⟨a, b, c⟩ := v
  obtain ⟨a', b', c'⟩ := w
  have hb := b.toNat_lt
  have hb' := b'.toNat_lt
  have hc := c.toNat_lt
  have hc' := c'.toNat_lt
  simp only [lt, rank, Bool.or_eq_true, Bool.and_eq_true, decide_eq_true_eq, beq_iff_eq,
    UInt32.lt_iff_toNat_lt, ← UInt32.toNat_inj]
  omega

theorem le_iff_rank_le {v w : Version} : v.le w = true ↔ v.rank ≤ w.rank := by
  rw [le, Bool.not_eq_true', ← Bool.not_eq_true, lt_iff_rank_lt, Nat.not_lt]

theorem not_le {v w : Version} : v.le w = false ↔ w.lt v = true := by
  rw [le, Bool.not_eq_false']

theorem le_refl (v : Version) : v.le v = true :=
  le_iff_rank_le.mpr (Nat.le_refl v.rank)

theorem le_trans {u v w : Version} (h : u.le v = true) (h' : v.le w = true) : u.le w = true :=
  le_iff_rank_le.mpr (Nat.le_trans (le_iff_rank_le.mp h) (le_iff_rank_le.mp h'))

theorem le_of_lt {v w : Version} (h : v.lt w = true) : v.le w = true :=
  le_iff_rank_le.mpr (Nat.le_of_lt (lt_iff_rank_lt.mp h))

theorem lt_of_le_of_lt {u v w : Version} (h : u.le v = true) (h' : v.lt w = true) : u.lt w = true :=
  lt_iff_rank_lt.mpr (Nat.lt_of_le_of_lt (le_iff_rank_le.mp h) (lt_iff_rank_lt.mp h'))

theorem max_eq_or (v w : Version) : v.max w = v ∨ v.max w = w := by
  unfold max
  split
  · exact .inl rfl
  · exact .inr rfl

theorem le_max_left (v w : Version) : v.le (v.max w) = true := by
  unfold max
  split
  · exact le_refl v
  · rename_i h
    rw [le, Bool.not_eq_true']
    exact (Bool.not_eq_true _).mp h

theorem le_max_right (v w : Version) : w.le (v.max w) = true := by
  unfold max
  split
  · rename_i h
    exact le_of_lt h
  · exact le_refl w

end Version

end Vitae
