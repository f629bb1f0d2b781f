import Mathlib.Data.List.Infix
import Vitae.Text.Substring

/-!
# Occurrences

What replacing every occurrence of one text in another does, told by parts of the text.

An occurrence can begin in one part and end in the next, so a text cannot simply be cut
and its parts be treated apart. It can if no occurrence begins in the part in front
(`replaceAll_append`), and if the part in front is an occurrence itself
(`replaceAll_needle_append`). A text that is put together from parts of these two kinds is
dealt with by induction.

## Theorems

* `contains_iff`: Containing is having as an infix.
* `replaceAll_append`: A part in which no occurrence begins is left alone.
* `replaceAll_needle_append`: An occurrence in front is replaced.
-/

namespace Vitae

namespace Text

variable {needle value : List Char}

theorem contains_iff {text : List Char} : contains needle text = true ↔ needle <:+: text := by
  induction text with
  | nil => rw [contains, List.isEmpty_iff, List.infix_nil]
  | cons c cs ih =>
      rw [contains, Bool.or_eq_true, ih, List.isPrefixOf_iff_prefix, List.infix_cons_iff]

theorem replaceAll_cons_of_not_prefix {c : Char} {cs : List Char} (h : ¬needle <+: c :: cs) :
    replaceAll needle value (c :: cs) = c :: replaceAll needle value cs := by
  have hstarts : needle.isPrefixOf (c :: cs) = false := by
    rw [← Bool.not_eq_true, List.isPrefixOf_iff_prefix]
    exact h
  rw [replaceAll, hstarts, Bool.false_and, if_neg Bool.false_ne_true]

/-- An occurrence in front is replaced, and the search goes on behind it. -/
theorem replaceAll_needle_append (hneedle : needle ≠ []) (rest : List Char) :
    replaceAll needle value (needle ++ rest) = value ++ replaceAll needle value rest := by
  obtain ⟨c, cs, rfl⟩ := List.exists_cons_of_ne_nil hneedle
  have hstarts : (c :: cs).isPrefixOf (c :: (cs ++ rest)) = true :=
    List.isPrefixOf_iff_prefix.mpr (List.prefix_append (c :: cs) rest)
  rw [List.cons_append, replaceAll, hstarts, List.isEmpty_cons, Bool.not_false, Bool.and_true,
    if_pos rfl, List.length_cons, Nat.add_sub_cancel, List.drop_left]

/-- A part in which no occurrence begins is left alone. -/
theorem replaceAll_append {front rest : List Char}
    (h : ∀ s, s ≠ [] → s <:+ front → ¬needle <+: s ++ rest) :
    replaceAll needle value (front ++ rest) = front ++ replaceAll needle value rest := by
  induction front with
  | nil => rfl
  | cons c cs ih =>
      have hhead : ¬needle <+: c :: (cs ++ rest) := h (c :: cs) nofun (List.suffix_refl _)
      rw [List.cons_append, replaceAll_cons_of_not_prefix hhead,
        ih fun s hs hsuffix => h s hs (hsuffix.trans (List.suffix_cons c cs))]
      rfl

end Text

end Vitae
