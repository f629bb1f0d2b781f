import Mathlib.Algebra.BigOperators.Group.List.Basic
import Mathlib.Algebra.Order.BigOperators.Group.List
import Mathlib.Algebra.Order.Ring.Nat
import Vitae.Proofs.Layout.Greedy

/-!
# Widths Add Up

The width of a text is the sum of the widths of its characters, kept in a machine word. So
there are two widths to a text: the one that is exact, and the one that is found. They are
the same as long as a word can hold them, and beyond that the one found is what is left of
the other after the word has run over (`Face.foundUnits_eq`). How long a text can be before
that happens follows from the widest character of its face (`Face.exactUnits_le`).

Joining texts adds their widths. A line is words with single spaces between them, and it is
measured as a whole, while the loop that fills it adds the space between words as a constant
of its own. That constant is the width of the blank in both faces
(`Face.charUnits_blank`), so the width of a line is that of its words and of the spaces
between them, whatever the words are.

A word of more than four million characters can run over. What is found of its width may be
next to nothing, and another word is put on its line although it is wider than any line
(`ats_share_line`).

## Main definitions

* `Face.exactUnits`: The exact width of a text.
* `Face.foundUnits`: The width that is found.
* `Face.widest`: The width of the widest character.
* `Face.spacedOut`: The width of words with a space between every two.

## Theorems

* `Face.exactUnits_le`: A bound on the exact width by the length.
* `Face.foundUnits_eq`: What is found of a width.
* `Face.foundUnits_append`: What is found for two texts that are joined.
* `Face.exactUnits_intercalate`, `Face.foundUnits_intercalate`: The widths of a line.
* `Face.units_exact`: When widths are exact, and how they add up on the lines of a text.
* `Face.not_forall_exact`: A text whose width is not exact.
* `ats_share_line`: A word that is wider than the line it shares.
-/

namespace Vitae

namespace Face

variable (face : Face)

/-- The exact width of a list of characters in thousandths of the type size. -/
def exactUnitsOf (cs : List Char) : Nat :=
  (cs.map fun c => (face.charUnits c).toNat).sum

/-- The exact width of a text in thousandths of the type size. -/
def exactUnits (text : String) : Nat :=
  face.exactUnitsOf text.toList

/-- The width of a text as it is found, in thousandths of the type size. -/
def foundUnits (text : String) : Nat :=
  (face.units text).toNat

/-- The width of the widest character, which is the sign `@`. -/
def widest : Face → UInt32
  | .regular => 1015
  | .bold => 975

theorem toNat_widest_regular : Face.regular.widest.toNat = 1015 := rfl

/-- The width of words on a line with single spaces between them, if `width` gives those of
the words. -/
def spacedOut (width : String → Nat) (ws : List String) : Nat :=
  (ws.map width).sum + (ws.length - 1) * face.spaceWidth.toNat

theorem charUnits_le (c : Char) : face.charUnits c ≤ face.widest := by
  have hwidths : face.widths.all (· ≤ face.widest) = true := by
    cases face <;> decide
  have haverage : face.averageWidth ≤ face.widest := by
    cases face <;> decide
  rw [charUnits]
  split
  · exact haverage
  · cases hget : face.widths[c.toNat - 32]? with
    | none => exact haverage
    | some width =>
        exact of_decide_eq_true (List.all_eq_true.mp hwidths width (List.mem_of_getElem? hget))

/-- The blank of the table is as wide as the space between words. -/
theorem charUnits_blank : face.charUnits ' ' = face.spaceWidth := by
  cases face <;> rfl

theorem exactUnitsOf_append (front back : List Char) :
    face.exactUnitsOf (front ++ back) = face.exactUnitsOf front + face.exactUnitsOf back := by
  rw [exactUnitsOf, List.map_append, List.sum_append_nat]
  rfl

theorem exactUnits_append (front back : String) :
    face.exactUnits (front ++ back) = face.exactUnits front + face.exactUnits back := by
  rw [exactUnits, String.toList_append, exactUnitsOf_append]
  rfl

theorem exactUnits_blank : face.exactUnits " " = face.spaceWidth.toNat := by
  rw [← charUnits_blank]
  exact Nat.add_zero _

/-- No text is wider than if it were all signs `@`. -/
theorem exactUnits_le (text : String) :
    face.exactUnits text ≤ text.length * face.widest.toNat := by
  have hchars : ∀ width ∈ text.toList.map fun c => (face.charUnits c).toNat,
      width ≤ face.widest.toNat := by
    intro width hwidth
    obtain ⟨c, -, rfl⟩ := List.mem_map.mp hwidth
    exact UInt32.le_iff_toNat_le.mp (face.charUnits_le c)
  have hsum := List.sum_le_card_nsmul _ _ hchars
  rwa [List.length_map, String.length_toList, Nat.nsmul_eq_mul] at hsum

/-- The running sum is the exact one, as far as a machine word can hold it. -/
theorem toNat_foldl_charUnits (cs : List Char) (total : UInt32) :
    (cs.foldl (fun total c => total + face.charUnits c) total).toNat =
      (total.toNat + face.exactUnitsOf cs) % 2 ^ 32 := by
  induction cs generalizing total with
  | nil => exact (Nat.mod_eq_of_lt total.toNat_lt).symm
  | cons c rest ih =>
      rw [List.foldl_cons, ih, UInt32.toNat_add, Nat.mod_add_mod, Nat.add_assoc]
      rfl

/-- What is found of a width is what is left of it after the word has run over. -/
theorem foundUnits_eq (text : String) : face.foundUnits text = face.exactUnits text % 2 ^ 32 := by
  rw [foundUnits, units, unitsOf, toNat_foldl_charUnits, UInt32.toNat_zero, Nat.zero_add,
    exactUnits]

theorem foundUnits_append (front back : String) :
    face.foundUnits (front ++ back) = (face.foundUnits front + face.foundUnits back) % 2 ^ 32 := by
  rw [foundUnits_eq, exactUnits_append, Nat.add_mod, ← foundUnits_eq, ← foundUnits_eq]

theorem units_eq (text : String) : face.units text = UInt32.ofNat (face.exactUnits text) := by
  rw [← UInt32.toNat_inj, UInt32.toNat_ofNat', ← foundUnits_eq, foundUnits]

/-- The exact width of a line is that of its words and the spaces between them. -/
theorem exactUnits_intercalate (ws : List String) :
    face.exactUnits (" ".intercalate ws) = face.spacedOut face.exactUnits ws := by
  induction ws with
  | nil =>
      rw [String.intercalate_nil, spacedOut, List.map_nil, List.length_nil, Nat.zero_sub,
        Nat.zero_mul]
      rfl
  | cons w rest ih =>
      cases rest with
      | nil =>
          rw [String.intercalate_singleton, spacedOut, List.map_singleton, List.sum_singleton,
            List.length_singleton, Nat.sub_self, Nat.zero_mul, Nat.add_zero]
      | cons v more =>
          rw [String.intercalate_cons_cons, exactUnits_append, exactUnits_append, ih,
            exactUnits_blank]
          simp only [spacedOut, List.map_cons, List.sum_cons, List.length_cons]
          -- One more word brings one more space.
          rw [Nat.add_sub_cancel, Nat.add_sub_cancel, Nat.succ_mul]
          omega

/-- What is found of the width of a line is made up of what is found for its words. -/
theorem foundUnits_intercalate (ws : List String) :
    face.foundUnits (" ".intercalate ws) = face.spacedOut face.foundUnits ws % 2 ^ 32 := by
  have hfound : ws.map face.foundUnits = (ws.map face.exactUnits).map (· % 2 ^ 32) := by
    rw [List.map_map]
    exact List.map_congr_left fun w _ => face.foundUnits_eq w
  rw [foundUnits_eq, exactUnits_intercalate, spacedOut, spacedOut, hfound, Nat.add_mod,
    List.sum_nat_mod, ← Nat.add_mod]

theorem space_eq_measure (size : Float32) : face.space size = face.measure " " size := by
  have hunits : face.units " " = face.spaceWidth := by
    cases face <;> rfl
  rw [space, measure, hunits]

end Face

/-- Widths are exact as long as a machine word can hold them, and then they add up: for texts
that are joined, and for the words of a line with the spaces between them. -/
theorem Face.units_exact (face : Face) :
    (∀ text size, face.measure text size = scaled (UInt32.ofNat (face.exactUnits text)) size) ∧
    (∀ text, face.foundUnits text = face.exactUnits text ↔ face.exactUnits text < 2 ^ 32) ∧
    (∀ text, face.exactUnits text ≤ text.length * face.widest.toNat) ∧
    (∀ front back,
      face.exactUnits (front ++ back) = face.exactUnits front + face.exactUnits back ∧
      (face.foundUnits (front ++ back) = face.foundUnits front + face.foundUnits back ↔
        face.foundUnits front + face.foundUnits back < 2 ^ 32)) ∧
    (∀ text size limit, ∀ line ∈ wrap face text size limit,
      Text.words line ≠ [] ∧ line = " ".intercalate (Text.words line) ∧
      face.exactUnits line = face.spacedOut face.exactUnits (Text.words line) ∧
      (face.foundUnits line = face.spacedOut face.foundUnits (Text.words line) ↔
        face.spacedOut face.foundUnits (Text.words line) < 2 ^ 32)) ∧
    face.charUnits ' ' = face.spaceWidth ∧
    ∀ size, face.space size = face.measure " " size := by
  have hword : (2 : Nat) ^ 32 ≠ 0 := by decide
  refine ⟨fun text size => ?_, fun text => ?_, face.exactUnits_le, fun front back => ?_,
    fun text size limit line hline => ?_, face.charUnits_blank, face.space_eq_measure⟩
  · rw [measure, units_eq]
  · rw [foundUnits_eq, Nat.mod_eq_iff_lt hword]
  · rw [foundUnits_append, Nat.mod_eq_iff_lt hword]
    exact ⟨face.exactUnits_append front back, Iff.rfl⟩
  · have hwords := intercalate_words_of_mem_wrap hline
    refine ⟨fun hnone => ?_, hwords.symm, ?_, ?_⟩
    · rw [hnone, String.intercalate_nil] at hwords
      exact ne_empty_of_mem_wrap face size limit hline hwords.symm
    · rw [← exactUnits_intercalate, hwords]
    · rw [← Nat.mod_eq_iff_lt hword, ← foundUnits_intercalate, hwords]

/-- A word of signs `@`. -/
def ats (count : Nat) : String :=
  String.ofList (List.replicate count '@')

theorem exactUnits_ats (face : Face) (count : Nat) :
    face.exactUnits (ats count) = count * face.widest.toNat := by
  have hwidth : face.charUnits '@' = face.widest := by
    cases face <;> rfl
  rw [Face.exactUnits, ats, String.toList_ofList, Face.exactUnitsOf, List.map_replicate,
    List.sum_replicate_nat, hwidth]

theorem isWord_ats {count : Nat} (h : count ≠ 0) : Text.IsWord (ats count) := by
  rw [Text.IsWord, ats, String.toList_ofList]
  refine ⟨fun hnil => h ((List.replicate_eq_nil_iff _).mp hnil), fun c hc => ?_⟩
  rw [List.eq_of_mem_replicate hc]
  decide

/-- Not every width is exact. No shorter text shows it, as no character is wider than the
sign `@` (`Face.exactUnits_le`) and a word of one sign less still has its exact width. -/
theorem Face.not_forall_exact :
    ¬∀ (face : Face) (text : String), face.foundUnits text = face.exactUnits text := by
  intro h
  have hfound := h .regular (ats 4231495)
  rw [foundUnits_eq, exactUnits_ats, toNat_widest_regular] at hfound
  omega

/-- The word is more than eighty thousand times as wide as a line, and there is another word
on the line it is put on. -/
theorem ats_share_line :
    Face.regular.exactUnits (ats 4231495) > 80000 * 50400 ∧
      wrap .regular (ats 4231495 ++ " " ++ "x") 10 504 = [ats 4231495 ++ " " ++ "x"] := by
  have hexact : Face.regular.exactUnits (ats 4231495) = 2 ^ 32 + 129 := by
    rw [exactUnits_ats, Face.toNat_widest_regular]
    omega
  have hunits : Face.regular.units (ats 4231495) = 129 := by
    rw [Face.units_eq, hexact]
    rfl
  have hfits : ¬Face.measure .regular (ats 4231495) 10 + Face.space .regular 10 +
      Face.measure .regular "x" 10 > 504 := by
    rw [Face.measure, hunits]
    decide +kernel
  have hwords : Text.words (ats 4231495 ++ " " ++ "x") = [ats 4231495, "x"] := by
    rw [Text.words_append_space, Text.words_of_isWord (isWord_ats (by decide))]
    rfl
  constructor
  · omega
  · rw [wrap, hwords, fill, fillFrom, if_neg hfits, fillFrom, List.map_singleton]
    rfl

end Vitae
