import Vitae.Layout.Wrap
import Vitae.Proofs.Text.Words

/-!
# Lines Keep Their Words

Breaking text into lines only decides where lines end. Whatever the widths are,
and whatever comparing them says, the words of the lines in order are the words
of the text. The comparison is never looked at, so it does not matter that a
width can be no number at all.

## Theorems

* `flatten_fill`: The words of the lines are the words that were given.
* `words_of_mem_fill`: A line has the words it was put together from.
* `words_wrap`: Cutting the lines into words gives the words of the text.
* `intercalate_words_of_mem_wrap`: A line is its words with single spaces between them.
* `wrap_eq_nil_iff`: Blank text, and no other, has no lines.
-/

namespace Vitae

theorem flatten_fillFrom (face : Face) (size limit : Float32) (line : List String)
    (width : Float32) (ws : List String) :
    (fillFrom face size limit line width ws).flatten = line.reverse ++ ws := by
  induction ws generalizing line width with
  | nil => simp only [fillFrom, List.flatten_cons, List.flatten_nil]
  | cons w rest ih =>
      rw [fillFrom]
      split
      · rw [List.flatten_cons, ih, List.reverse_singleton, List.singleton_append]
      · rw [ih, List.reverse_cons, List.append_assoc, List.singleton_append]

/-- The words of the lines are the words that were given, in order. -/
theorem flatten_fill (face : Face) (size limit : Float32) (ws : List String) :
    (fill face size limit ws).flatten = ws := by
  cases ws with
  | nil => rfl
  | cons w rest => rw [fill, flatten_fillFrom, List.reverse_singleton, List.singleton_append]

theorem fillFrom_ne_nil (face : Face) (size limit : Float32) (line : List String)
    (width : Float32) (ws : List String) : fillFrom face size limit line width ws ≠ [] := by
  induction ws generalizing line width with
  | nil => exact List.cons_ne_nil _ _
  | cons w rest ih =>
      rw [fillFrom]
      split
      · exact List.cons_ne_nil _ _
      · exact ih _ _

theorem fill_eq_nil_iff (face : Face) (size limit : Float32) (ws : List String) :
    fill face size limit ws = [] ↔ ws = [] := by
  cases ws with
  | nil => simp only [fill]
  | cons w rest =>
      simp only [fill, reduceCtorEq, iff_false]
      exact fillFrom_ne_nil _ _ _ _ _ _

/-- Blank text has no lines, and any other text has. -/
theorem wrap_eq_nil_iff (face : Face) (text : String) (size limit : Float32) :
    wrap face text size limit = [] ↔ Text.isBlank text = true := by
  rw [wrap, List.map_eq_nil_iff, fill_eq_nil_iff, Text.words_eq_nil_iff]

/-- A line that is cut into words again gives the words it was put together from. -/
theorem words_of_mem_fill {face : Face} {text : String} {size limit : Float32}
    {line : List String} (h : line ∈ fill face size limit (Text.words text)) :
    Text.words (" ".intercalate line) = line := by
  refine Text.words_intercalate line (fun w hw => Text.isWord_of_mem_words (s := text) ?_)
  rw [← flatten_fill face size limit (Text.words text)]
  exact List.mem_flatten.mpr ⟨line, h, hw⟩

/-- Cutting the lines into words gives the words of the text. -/
theorem words_wrap (face : Face) (text : String) (size limit : Float32) :
    (wrap face text size limit).flatMap Text.words = Text.words text := by
  have hlines : ∀ line ∈ fill face size limit (Text.words text),
      Text.words (" ".intercalate line) = line := fun _ => words_of_mem_fill
  rw [wrap, List.flatMap_map, List.flatMap_def, List.map_congr_left hlines, List.map_id',
    flatten_fill]

/-- A line is its words with single spaces between them. -/
theorem intercalate_words_of_mem_wrap {face : Face} {text line : String} {size limit : Float32}
    (h : line ∈ wrap face text size limit) : " ".intercalate (Text.words line) = line := by
  obtain ⟨ws, hws, rfl⟩ := List.mem_map.mp h
  rw [words_of_mem_fill hws]

end Vitae
