/-!
# Ranges of Code Points

Sets of characters as tables. A table lists closed ranges of code points that
do not touch, in ascending order, so a search may stop at the first range that
ends behind the character.

## Main definitions

* `inRanges`: A code point lies in one of the ranges of a table.

## Theorems

* `not_inRanges_of_lt`: What lies before a table does not lie in it.
-/

namespace Vitae

namespace Text

/-- A code point lies in one of the given ascending ranges. -/
def inRanges (n : Nat) : List (Nat × Nat) → Bool
  | [] => false
  | (first, last) :: rest => if n ≤ last then first ≤ n else inRanges n rest

/-- What lies before the first range of a table does not lie in the table, if
no range of it is turned around. -/
theorem not_inRanges_of_lt {n first last : Nat} {rest : List (Nat × Nat)} (hn : n < first)
    (hle : first ≤ last) : inRanges n ((first, last) :: rest) = false := by
  have hlast : n ≤ last := by omega
  have hfirst : ¬ first ≤ n := by omega
  rw [inRanges, if_pos hlast]
  simp [hfirst]

end Text

end Vitae
