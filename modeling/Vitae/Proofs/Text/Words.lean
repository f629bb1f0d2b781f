import Vitae.Text.Blank

/-!
# Cutting Text into Words

How words behave when texts are put together. A space between two texts keeps
their words apart (`words_append_space`), so a line of words with single spaces
between them has exactly these words (`words_intercalate`). That is what lets a
text be broken into lines and its words still be counted.

A word is a text that is not empty and holds no space. Cutting yields words only,
and a word is not cut any further, so the two notions meet in `words_of_isWord`.

## Main definitions

* `IsWord`: A text that is not cut any further.

## Theorems

* `wordChars_append_cut`: A space separates the words on its two sides.
* `isWord_of_mem_words`: Cutting yields words only.
* `words_of_isWord`: A word is its only word.
* `words_eq_nil_iff`: A text without words is blank.
* `words_append_space`: Words of texts with a space between them.
* `words_intercalate_flatMap`: Words of texts with single spaces between them.
* `words_intercalate`: Words with single spaces between them.
-/

namespace Vitae

namespace Text

/-- A text that is not empty and holds no space. -/
def IsWord (w : String) : Prop :=
  w.toList ≠ [] ∧ ∀ c ∈ w.toList, isSpace c = false

theorem isWord_of_all {w : String} (hne : w.toList ≠ [])
    (h : w.toList.all (fun c => !isSpace c) = true) : IsWord w :=
  ⟨hne, fun c hc => (Bool.not_eq_true' _).mp (List.all_eq_true.mp h c hc)⟩

theorem pieces_append_cut (cut : Char → Bool) {c : Char} (hc : cut c = true)
    (front back : List Char) :
    pieces cut (front ++ c :: back) = pieces cut front ++ pieces cut back := by
  induction front with
  | nil => simp only [List.nil_append, pieces, if_pos hc, List.cons_append]
  | cons d rest ih =>
      by_cases hd : cut d = true
      · simp only [List.cons_append, pieces, if_pos hd, ih]
      · simp only [List.cons_append, pieces, if_neg hd, ih]
        -- The first piece grows, and it is one of the front.
        cases hrest : pieces cut rest with
        | nil => exact absurd hrest (pieces_ne_nil cut rest)
        | cons w ws => simp only [List.cons_append]

theorem pieces_of_uncut (cut : Char → Bool) (cs : List Char) (h : ∀ c ∈ cs, cut c = false) :
    pieces cut cs = [cs] := by
  induction cs with
  | nil => rfl
  | cons c rest ih =>
      have hc : ¬cut c = true := by
        rw [h c List.mem_cons_self]
        exact Bool.false_ne_true
      rw [pieces, if_neg hc, ih (fun d hd => h d (List.mem_cons_of_mem _ hd))]

theorem uncut_of_mem_pieces (cut : Char → Bool) {cs w : List Char} (h : w ∈ pieces cut cs) :
    ∀ c ∈ w, cut c = false := by
  induction cs generalizing w with
  | nil =>
      rw [pieces, List.mem_singleton] at h
      rw [h]
      exact fun _ hc => absurd hc List.not_mem_nil
  | cons d rest ih =>
      rw [pieces] at h
      by_cases hd : cut d = true
      · rw [if_pos hd] at h
        rcases List.mem_cons.mp h with rfl | h
        · exact fun _ hc => absurd hc List.not_mem_nil
        · exact ih h
      · rw [if_neg hd] at h
        cases hrest : pieces cut rest with
        | nil => exact absurd hrest (pieces_ne_nil cut rest)
        | cons v vs =>
            rw [hrest] at ih
            simp only [hrest] at h
            rcases List.mem_cons.mp h with rfl | h
            · intro c hc
              rcases List.mem_cons.mp hc with rfl | hc
              · exact eq_false_of_ne_true hd
              · exact ih List.mem_cons_self c hc
            · exact ih (List.mem_cons_of_mem _ h)

/-- A space separates the words on its two sides. -/
theorem wordChars_append_cut {c : Char} (hc : isSpace c = true) (front back : List Char) :
    wordChars (front ++ c :: back) = wordChars front ++ wordChars back := by
  simp only [wordChars, pieces_append_cut isSpace hc, List.filter_append]

theorem wordChars_cons_space {c : Char} (hc : isSpace c = true) (cs : List Char) :
    wordChars (c :: cs) = wordChars cs := by
  rw [← List.nil_append (c :: cs), wordChars_append_cut hc]
  rfl

/-- A list of characters has no words exactly when it has spaces only. -/
theorem wordChars_eq_nil_iff (cs : List Char) :
    wordChars cs = [] ↔ cs.all isSpace = true := by
  induction cs with
  | nil => simp [wordChars, pieces]
  | cons c rest ih =>
      by_cases hc : isSpace c = true
      · rw [wordChars_cons_space hc, ih, List.all_cons, hc, Bool.true_and]
      · -- The piece that begins with `c` is not empty, so it is kept.
        rw [List.all_cons, eq_false_of_ne_true hc, Bool.false_and]
        simp only [Bool.false_eq_true, iff_false]
        rw [wordChars, pieces, if_neg hc]
        split <;> simp

theorem words_eq_nil_iff (s : String) : words s = [] ↔ isBlank s = true := by
  rw [words, List.map_eq_nil_iff, wordChars_eq_nil_iff, isBlank]

/-- Cutting yields words only. -/
theorem isWord_of_mem_words {s w : String} (h : w ∈ words s) : IsWord w := by
  rcases List.mem_map.mp h with ⟨cs, hcs, rfl⟩
  rcases List.mem_filter.mp hcs with ⟨hmem, hne⟩
  rw [IsWord, String.toList_ofList]
  refine ⟨fun hnil => ?_, uncut_of_mem_pieces isSpace hmem⟩
  rw [hnil] at hne
  simp only [List.isEmpty_nil, Bool.not_true, Bool.false_eq_true] at hne

/-- A word is its only word. -/
theorem words_of_isWord {w : String} (h : IsWord w) : words w = [w] := by
  have hkeep : [w.toList].filter (fun cs => !cs.isEmpty) = [w.toList] := by
    simp [h.1]
  rw [words, wordChars, pieces_of_uncut isSpace w.toList h.2, hkeep, List.map_singleton,
    String.ofList_toList]

@[simp]
theorem words_empty : words "" = [] :=
  (words_eq_nil_iff "").mpr rfl

/-- A space between two texts keeps their words apart. -/
theorem words_append_space (s t : String) : words (s ++ " " ++ t) = words s ++ words t := by
  have hspace : isSpace ' ' = true := by decide
  have hchars : (s ++ " " ++ t).toList = s.toList ++ ' ' :: t.toList := by
    rw [String.toList_append, String.toList_append, List.append_assoc]
    rfl
  rw [words, hchars, wordChars_append_cut hspace, List.map_append]
  rfl

/-- Single spaces between texts keep the words of all of them apart. -/
theorem words_intercalate_flatMap (texts : List String) :
    words (" ".intercalate texts) = texts.flatMap words := by
  induction texts with
  | nil => rw [String.intercalate_nil, words_empty, List.flatMap_nil]
  | cons s rest ih =>
      cases rest with
      | nil => rw [String.intercalate_singleton, List.flatMap_singleton]
      | cons t more =>
          rw [String.intercalate_cons_cons, words_append_space, ih, ← List.flatMap_cons]

/-- Words with single spaces between them are cut into the same words again. -/
theorem words_intercalate (ws : List String) (h : ∀ w ∈ ws, IsWord w) :
    words (" ".intercalate ws) = ws := by
  have hwords : ws.map words = ws.map fun w => [w] :=
    List.map_congr_left fun w hw => words_of_isWord (h w hw)
  rw [words_intercalate_flatMap, List.flatMap_def, hwords, ← List.flatMap_def,
    List.flatMap_singleton']

end Text

end Vitae
