/-!
# Occurrences Inside a Text

Looking for one text inside another, and replacing or cutting at what was
found. Occurrences are taken from the left and do not overlap: once one has
been used up, the search goes on behind it, so the replacement text is never
searched again.

## Main definitions

* `contains`: One list of characters occurs inside another.
* `replaceAll`: Every occurrence replaced, from the left.
* `splitAll`: A text cut at every occurrence of a separator.

## Theorems

* `replaceAll_nil`: The empty text has nothing to replace.
-/

namespace Vitae

namespace Text

def contains (needle : List Char) : List Char → Bool
  | [] => needle.isEmpty
  | c :: cs => needle.isPrefixOf (c :: cs) || contains needle cs

/-- Every occurrence of `needle` replaced by `value`, from the left and without
overlaps. An empty needle occurs nowhere. -/
def replaceAll (needle value : List Char) : List Char → List Char
  | [] => []
  | c :: cs =>
    if needle.isPrefixOf (c :: cs) && !needle.isEmpty then
      value ++ replaceAll needle value (cs.drop (needle.length - 1))
    else
      c :: replaceAll needle value cs
termination_by cs => cs.length
decreasing_by
  all_goals
    simp only [List.length_drop, List.length_cons]
    omega

@[simp]
theorem replaceAll_nil (needle value : List Char) : replaceAll needle value [] = [] := by
  simp [replaceAll]

/-- A list of characters cut at every occurrence of `separator`, from the left
and without overlaps. -/
def splitAll (separator : List Char) : List Char → List (List Char)
  | [] => [[]]
  | c :: cs =>
    if separator.isPrefixOf (c :: cs) && !separator.isEmpty then
      [] :: splitAll separator (cs.drop (separator.length - 1))
    else
      match splitAll separator cs with
      | [] => [[c]]
      | w :: ws => (c :: w) :: ws
termination_by cs => cs.length
decreasing_by
  all_goals
    simp only [List.length_drop, List.length_cons]
    omega

end Text

end Vitae
