import Vitae.Proofs.Release.Install
import Vitae.Proofs.Text.Trim

/-!
# How Versions Are Spelled

Which texts are read as versions, said as a grammar: spaces around, one `v` in front if one
likes, and three numbers in decimal with points between them. Reading a text and being
spelled like this are the same (`parse?_eq_some_iff`), and what is read are the numbers that
the digits denote, each of which fits into a machine word.

The grammar has the spelling of a number as a parameter, because there are two. The documented
one is digits only. The one that is read lets a plus sign stand in front of the digits, in any
of the three numbers, so that some texts are taken for versions that are none
(`not_forall_spells`). A plus sign is all there is between the two: without one, a text is
read exactly if it is spelled as documented.

## Main definitions

* `Natural.Digits`, `Natural.Signed`: A number in decimal, without and with a sign.
* `Version.Spells`: A text that spells a version.

## Theorems

* `Natural.parse?_eq_some_iff`: Which characters are read as a number.
* `Text.intercalate_pieces`: A text is put together again from its pieces.
* `Version.parse?_eq_some_iff`: Which texts are read as a version.
* `Version.readVersion_spells`: What is read, and what is refused.
* `Version.not_forall_spells`: A text that is read although it is not spelled as documented.
-/

namespace Vitae

namespace Natural

/-- A run of digits that denotes a number in decimal. -/
structure Digits (digits : List Char) (n : Nat) : Prop where
  ne_nil : digits ≠ []
  isDigit : ∀ c ∈ digits, c.isDigit = true
  value : Nat.ofDigitChars 10 digits 0 = n

/-- A run of digits with a plus sign in front, if one likes. -/
def Signed (cs : List Char) (n : Nat) : Prop :=
  Digits cs n ∨ ∃ digits, cs = '+' :: digits ∧ Digits digits n

variable {width n : Nat} {cs digits : List Char}

theorem ofDigits?_eq_some_iff :
    ofDigits? width digits = some n ↔ Digits digits n ∧ n < 2 ^ width := by
  unfold ofDigits?
  simp only [foldl_digits]
  constructor
  · intro h
    split at h
    · cases h
    · rename_i hdigits
      rw [Bool.or_eq_true, not_or, List.isEmpty_iff, Bool.not_eq_true', Bool.not_eq_false,
        List.all_eq_true] at hdigits
      split at h
      · rename_i hlt
        cases h
        exact ⟨⟨hdigits.1, hdigits.2, rfl⟩, hlt⟩
      · cases h
  · rintro ⟨⟨hne, hdigit, rfl⟩, hlt⟩
    refine (if_neg ?_).trans (if_pos hlt)
    rw [Bool.or_eq_true, not_or, List.isEmpty_iff, Bool.not_eq_true', Bool.not_eq_false,
      List.all_eq_true]
    exact ⟨hne, hdigit⟩

/-- Which characters are read as a number. -/
theorem parse?_eq_some_iff : parse? width cs = some n ↔ Signed cs n ∧ n < 2 ^ width := by
  unfold parse?
  split
  · rename_i digits
    rw [ofDigits?_eq_some_iff, Signed]
    refine and_congr_left fun _ => ⟨fun h => .inr ⟨digits, rfl, h⟩, ?_⟩
    rintro (h | ⟨_, heq, h⟩)
    · -- A plus sign is no digit.
      cases h.isDigit '+' List.mem_cons_self
    · cases heq
      exact h
  · rename_i hplus
    rw [ofDigits?_eq_some_iff, Signed]
    refine and_congr_left fun _ => ⟨.inl, ?_⟩
    rintro (h | ⟨digits, rfl, -⟩)
    · exact h
    · exact absurd rfl (hplus digits)

theorem digits_toDigits (n : Nat) : Digits (Nat.toDigits 10 n) n :=
  ⟨Nat.toDigits_ne_nil, fun _ hc => isDigit_toDigits hc, Nat.ofDigitChars_ten_toDigits⟩

theorem Digits.plus_notMem (h : Digits cs n) : '+' ∉ cs :=
  fun hplus => absurd (h.isDigit '+' hplus) (by decide)

/-- A plus sign is all that a number can have beside its digits. -/
theorem digits_iff_signed : Digits cs n ↔ Signed cs n ∧ '+' ∉ cs := by
  constructor
  · exact fun h => ⟨.inl h, h.plus_notMem⟩
  · rintro ⟨h | ⟨digits, rfl, -⟩, hplus⟩
    · exact h
    · exact absurd List.mem_cons_self hplus

theorem Signed.isDigit_or_eq (h : Signed cs n) {c : Char} (hc : c ∈ cs) :
    c.isDigit = true ∨ c = '+' := by
  rcases h with h | ⟨digits, rfl, h⟩
  · exact .inl (h.isDigit c hc)
  · rcases List.mem_cons.mp hc with rfl | hc
    · exact .inr rfl
    · exact .inl (h.isDigit c hc)

end Natural

namespace Text

/-- A text is put together again from its pieces. -/
theorem intercalate_pieces (mark : Char) (cs : List Char) :
    [mark].intercalate (pieces (· == mark) cs) = cs := by
  induction cs with
  | nil => rfl
  | cons c rest ih =>
    have hne := pieces_ne_nil (· == mark) rest
    unfold pieces
    cases hrest : pieces (· == mark) rest with
    | nil => exact absurd hrest hne
    | cons w ws =>
      rw [hrest] at ih
      by_cases hc : c = mark
      · rw [if_pos (beq_iff_eq.mpr hc), List.intercalate_cons_cons, ih, hc]
        rfl
      · rw [if_neg (mt beq_iff_eq.mp hc)]
        rw [← ih]
        cases ws <;> rfl

end Text

namespace Version

open Natural (Digits Signed)

/-- A text that spells a version: three numbers with points between them, behind one `v` if
one likes, and with spaces around. How a number is spelled is left open. -/
def Spells (number : List Char → Nat → Prop) (text : String) (v : Version) : Prop :=
  ∃ mark a b c, Text.Padded (mark ++ (a ++ '.' :: (b ++ '.' :: c))) text.toList ∧
    (mark = [] ∨ mark = ['v']) ∧
    number a v.major.toNat ∧ number b v.minor.toNat ∧ number c v.patch.toNat

theorem withoutMark_eq (cs : List Char) : withoutMark cs = Text.withoutOne 'v' cs := by
  unfold withoutMark
  split
  · rfl
  · rename_i hmark
    cases cs with
    | nil => rfl
    | cons c rest => exact (if_neg fun hc => hmark rest (congrArg (· :: rest) hc)).symm

theorem part?_eq_some_iff {cs : List Char} {n : UInt32} :
    part? cs = some n ↔ Signed cs n.toNat := by
  rw [part?, Option.map_eq_some_iff]
  constructor
  · rintro ⟨m, hparse, rfl⟩
    obtain ⟨hm, hlt⟩ := Natural.parse?_eq_some_iff.mp hparse
    rwa [UInt32.toNat_ofNat_of_lt' hlt]
  · exact fun h => ⟨n.toNat, Natural.parse?_eq_some_iff.mpr ⟨h, n.toNat_lt⟩, UInt32.ofNat_toNat⟩

/-- The characters of a number are neither spaces nor marks. -/
theorem solid_of_signed {cs : List Char} {n : Nat} (h : Signed cs n) {c : Char} (hc : c ∈ cs) :
    Text.isSpace c = false ∧ (c == '.') = false ∧ c ≠ 'v' := by
  rcases h.isDigit_or_eq hc with hdigit | rfl
  · refine ⟨solid_of_isDigit hdigit, notCut_of_isDigit hdigit, ?_⟩
    rintro rfl
    cases hdigit
  · decide

theorem ofChars?_eq_some_iff {cs : List Char} {v : Version} :
    ofChars? cs = some v ↔ ∃ mark a b c, cs = mark ++ (a ++ '.' :: (b ++ '.' :: c)) ∧
      (mark = [] ∨ mark = ['v']) ∧
      Signed a v.major.toNat ∧ Signed b v.minor.toNat ∧ Signed c v.patch.toNat := by
  constructor
  · intro h
    obtain ⟨mark, hcs, hmark⟩ := Text.exists_withoutOne 'v' cs
    rw [ofChars?, withoutMark_eq] at h
    split at h
    · rename_i a b c hpieces
      simp only [Option.bind_eq_bind, Option.bind_eq_some_iff, Option.some.injEq] at h
      obtain ⟨major, hmajor, minor, hminor, patch, hpatch, rfl⟩ := h
      have hrest := Text.intercalate_pieces '.' (Text.withoutOne 'v' cs)
      rw [hpieces] at hrest
      refine ⟨mark, a, b, c, ?_, hmark, part?_eq_some_iff.mp hmajor, part?_eq_some_iff.mp hminor,
        part?_eq_some_iff.mp hpatch⟩
      rw [hcs, ← hrest]
      simp [List.intercalate]
    · cases h
  · rintro ⟨mark, a, b, c, rfl, hmark, ha, hb, hc⟩
    have huncut : ∀ {cs : List Char} {n : Nat}, Signed cs n →
        Text.pieces (· == '.') cs = [cs] := fun h =>
      Text.pieces_of_uncut _ _ fun _ hd => (solid_of_signed h hd).2.1
    have hv : 'v' ∉ a ++ '.' :: (b ++ '.' :: c) := by
      simp only [List.mem_append, List.mem_cons, not_or]
      exact ⟨fun hd => (solid_of_signed ha hd).2.2 rfl, by decide,
        fun hd => (solid_of_signed hb hd).2.2 rfl, by decide,
        fun hd => (solid_of_signed hc hd).2.2 rfl⟩
    rw [ofChars?, withoutMark_eq, Text.withoutOne_append hmark hv, Text.pieces_append_cut _ rfl,
      Text.pieces_append_cut _ rfl, huncut ha, huncut hb, huncut hc]
    simp only [List.singleton_append, part?_eq_some_iff.mpr ha, part?_eq_some_iff.mpr hb,
      part?_eq_some_iff.mpr hc]
    rfl

/-- Which texts are read as a version. -/
theorem parse?_eq_some_iff {text : String} {v : Version} :
    parse? text = some v ↔ Spells Signed text v := by
  rw [parse?, ofChars?_eq_some_iff]
  constructor
  · rintro ⟨mark, a, b, c, htrim, hrest⟩
    exact ⟨mark, a, b, c, htrim ▸ Text.padded_trimChars _, hrest⟩
  · rintro ⟨mark, a, b, c, hpadded, hmark, ha, hb, hc⟩
    -- There is no space in a version.
    refine ⟨mark, a, b, c, Text.trimChars_of_padded hpadded fun d hd => ?_, hmark, ha, hb, hc⟩
    simp only [List.mem_append, List.mem_cons] at hd
    rcases hd with hd | hd | rfl | hd | rfl | hd
    · rcases hmark with rfl | rfl
      · exact absurd hd List.not_mem_nil
      · rw [List.mem_singleton.mp hd]
        rfl
    · exact (solid_of_signed ha hd).1
    · rfl
    · exact (solid_of_signed hb hd).1
    · rfl
    · exact (solid_of_signed hc hd).1

/-- A text is spelled as documented if it is read and has no plus sign. -/
theorem spells_digits_iff {text : String} {v : Version} :
    Spells Digits text v ↔ Spells Signed text v ∧ '+' ∉ text.toList := by
  constructor
  · rintro ⟨mark, a, b, c, ⟨before, after, heq, hbefore, hafter⟩, hmark, ha, hb, hc⟩
    refine ⟨⟨mark, a, b, c, ⟨before, after, heq, hbefore, hafter⟩, hmark, .inl ha, .inl hb,
      .inl hc⟩, ?_⟩
    have hspaces : ∀ {spaces : List Char}, (∀ c ∈ spaces, Text.isSpace c = true) →
        '+' ∉ spaces := fun hspaces hplus => absurd (hspaces '+' hplus) (by decide)
    have hnone : '+' ∉ mark := by
      rcases hmark with rfl | rfl <;> decide
    rw [heq]
    simp only [List.mem_append, List.mem_cons, not_or]
    exact ⟨⟨hspaces hbefore, hnone, ha.plus_notMem, by decide, hb.plus_notMem, by decide,
      hc.plus_notMem⟩, hspaces hafter⟩
  · rintro ⟨⟨mark, a, b, c, ⟨before, after, heq, hpadded⟩, hmark, ha, hb, hc⟩, hplus⟩
    refine ⟨mark, a, b, c, ⟨before, after, heq, hpadded⟩, hmark, ?_⟩
    rw [heq] at hplus
    simp only [List.mem_append, List.mem_cons, not_or] at hplus
    obtain ⟨⟨-, -, hplusA, -, hplusB, -, hplusC⟩, -⟩ := hplus
    exact ⟨Natural.digits_iff_signed.mpr ⟨ha, hplusA⟩, Natural.digits_iff_signed.mpr ⟨hb, hplusB⟩,
      Natural.digits_iff_signed.mpr ⟨hc, hplusC⟩⟩

/-- A version is spelled by its text, also behind a `v`. -/
theorem spells_text {mark : String} (hmark : mark = "" ∨ mark = "v") (v : Version) :
    Spells Digits (mark ++ v.text) v := by
  refine ⟨mark.toList, digits v.major, digits v.minor, digits v.patch, ?_, ?_,
    Natural.digits_toDigits _, Natural.digits_toDigits _, Natural.digits_toDigits _⟩
  · rw [String.toList_append, toList_text]
    exact Text.padded_self _
  · rcases hmark with rfl | rfl
    · exact .inl rfl
    · exact .inr rfl

/-- What is read as a version, and what is refused: a text is read exactly if it spells a
version with a plus sign in front of its numbers or not, and the version is the one that it
spells. Any other text is refused and named in the refusal. If there is no plus sign in it,
it is read exactly if it is spelled as documented. A version is read back from what is written
of it, with a `v` in front or without. -/
theorem readVersion_spells (text : String) (v : Version) :
    (Updater.readVersion text = .ok v ↔ Spells Signed text v) ∧
      (∀ error, Updater.readVersion text = .error error ↔
        (∀ other, ¬Spells Signed text other) ∧ error = .invalidVersion text) ∧
      (Updater.readVersion text = .ok v ∧ '+' ∉ text.toList ↔ Spells Digits text v) ∧
      Updater.readVersion v.text = .ok v ∧ Updater.readVersion ("v" ++ v.text) = .ok v := by
  have hread : ∀ text v, Updater.readVersion text = .ok v ↔ Spells Signed text v := fun _ _ =>
    Updater.readVersion_eq_ok.trans parse?_eq_some_iff
  have hwritten : ∀ {mark : String}, mark = "" ∨ mark = "v" →
      Updater.readVersion (mark ++ v.text) = .ok v := fun hmark =>
    (hread _ v).mpr (spells_digits_iff.mp (spells_text hmark v)).1
  refine ⟨hread text v, fun error => ?_, ?_, ?_, hwritten (.inr rfl)⟩
  · simp only [← parse?_eq_some_iff, Updater.readVersion]
    cases parse? text with
    | none =>
      rw [Except.error.injEq, eq_comm]
      exact ⟨fun h => ⟨fun _ hsome => (by cases hsome), h⟩, And.right⟩
    | some found => exact ⟨fun h => (by cases h), fun h => absurd rfl (h.1 found)⟩
  · rw [hread, spells_digits_iff]
  · rw [← String.empty_append (s := v.text)]
    exact hwritten (.inl rfl)

/-- Not every text that is read is spelled as documented. -/
theorem not_forall_spells :
    ¬∀ text v, Updater.readVersion text = .ok v ↔ Spells Digits text v := by
  intro h
  have hread : Updater.readVersion "1.+2.3" = .ok ⟨1, 2, 3⟩ := by rfl
  exact (spells_digits_iff.mp ((h _ _).mp hread)).2 (by decide)

end Version

end Vitae
