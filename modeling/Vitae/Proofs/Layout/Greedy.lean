import Mathlib.Data.List.Chain
import Vitae.Proofs.Layout.Wrap

/-!
# Filling Is Greedy

What it means that lines are filled greedily, said of the lines and not of the way they
come about. Every word that has been put on a line after others was found to fit there, and
the first word of the next line was found not to. That settles the lines: no other way of
breaking the same words into lines has both properties (`Greedy.eq_fill`).

Floats do not enter into it. A word fits unless a sum is found to be greater than the limit,
and whatever comparing says is taken as it is, also for sums that are no number.

One consequence is not to be had, though. The sum that is tested adds the space and the word
one after the other, and the running width adds them to each other first. Both are rounded,
and they may differ in the last place. So a line of several words can be wider than the limit
by its running width, although every word was found to fit.

## Main definitions

* `runningWidth`: The width of a line as it is added up.
* `tryWidth`: The sum that is tested before a word is put on a line.
* `Fitting`, `Greedy`: What is asked of a line, and of lines.

## Theorems

* `greedy_fill`: Lines are filled greedily.
* `Greedy.eq_fill`: There is no other way to do so.
* `wrap_greedy`: What is known of the lines of a text.
* `not_forall_single`: A line of two words that is wider than the limit.
-/

namespace Vitae

variable (face : Face) (size limit : Float32)

/-- The width of a line as it is added up, word by word. -/
def runningWidth : List String → Float32
  | [] => 0
  | word :: rest =>
    rest.foldl (fun width next => width + (face.space size + face.measure next size))
      (face.measure word size)

/-- The sum that is tested before a word is put on a line. -/
def tryWidth (line : List String) (word : String) : Float32 :=
  runningWidth face size line + face.space size + face.measure word size

/-- Every word of a line but the first was found to fit behind those before it. -/
def Fitting (line : List String) : Prop :=
  ∀ front word back, line = front ++ word :: back → front ≠ [] →
    ¬tryWidth face size front word > limit

/-- Lines that have been filled greedily. -/
structure Greedy (lines : List (List String)) : Prop where
  nonempty : ∀ line ∈ lines, line ≠ []
  fitting : ∀ line ∈ lines, Fitting face size limit line
  /-- The first word of the next line was found not to fit. -/
  full : lines.IsChain fun line next => ∀ word ∈ next.head?, tryWidth face size line word > limit

/-- What filling gives from some point on, by the words of the current line. -/
def fillOn (line ws : List String) : List (List String) :=
  fillFrom face size limit line.reverse (runningWidth face size line) ws

section Lines

variable {face size limit}

theorem runningWidth_concat {line : List String} (h : line ≠ []) (word : String) :
    runningWidth face size (line ++ [word]) =
      runningWidth face size line + (face.space size + face.measure word size) := by
  cases line with
  | nil => exact absurd rfl h
  | cons first rest =>
      simp only [runningWidth, List.cons_append, List.foldl_append, List.foldl_cons, List.foldl_nil]

theorem fillOn_nil (line : List String) : fillOn face size limit line [] = [line] := by
  rw [fillOn, fillFrom, List.reverse_reverse]

theorem fillOn_of_full {line : List String} {word : String}
    (h : tryWidth face size line word > limit) (rest : List String) :
    fillOn face size limit line (word :: rest) = line :: fillOn face size limit [word] rest := by
  rw [fillOn, fillFrom, List.reverse_reverse]
  exact if_pos h

theorem fillOn_of_fits {line : List String} (hline : line ≠ []) {word : String}
    (h : ¬tryWidth face size line word > limit) (rest : List String) :
    fillOn face size limit line (word :: rest) = fillOn face size limit (line ++ [word]) rest := by
  rw [fillOn, fillOn, runningWidth_concat hline, List.reverse_append, fillFrom]
  exact if_neg h

theorem fitting_singleton (word : String) : Fitting face size limit [word] := by
  intro front other back hsplit hfront
  cases front with
  | nil => exact absurd rfl hfront
  | cons first rest => simp at hsplit

theorem Fitting.concat {line : List String} (h : Fitting face size limit line) {word : String}
    (hword : ¬tryWidth face size line word > limit) : Fitting face size limit (line ++ [word]) := by
  intro front other back hsplit hfront
  rcases List.eq_nil_or_concat' back with rfl | ⟨more, last, rfl⟩
  · -- The last word is the one that was tested now, and the others have been before.
    obtain ⟨rfl, hlast⟩ := List.append_inj' hsplit rfl
    rwa [← List.singleton_inj.mp hlast]
  · rw [← List.cons_append, ← List.append_assoc] at hsplit
    exact h front other more (List.append_inj_left' hsplit rfl) hfront

theorem Greedy.tail {line : List String} {lines : List (List String)}
    (h : Greedy face size limit (line :: lines)) : Greedy face size limit lines :=
  ⟨fun other hother => h.nonempty other (List.mem_cons_of_mem _ hother),
    fun other hother => h.fitting other (List.mem_cons_of_mem _ hother), h.full.tail⟩

/-- The current line is the beginning of the first line that is still to come. -/
theorem exists_fillOn {line : List String} (hline : line ≠ []) (ws : List String) :
    ∃ more rest, fillOn face size limit line ws = (line ++ more) :: rest := by
  induction ws generalizing line with
  | nil => exact ⟨[], [], by rw [fillOn_nil, List.append_nil]⟩
  | cons word rest ih =>
      by_cases hfull : tryWidth face size line word > limit
      · exact ⟨[], _, by rw [fillOn_of_full hfull, List.append_nil]⟩
      · obtain ⟨more, lines, hlines⟩ := ih (List.append_ne_nil_of_left_ne_nil hline [word])
        refine ⟨word :: more, lines, ?_⟩
        rw [fillOn_of_fits hline hfull, hlines, List.append_assoc, List.singleton_append]

/-- The lines from the current one on are filled greedily, if that one is so far. -/
theorem greedy_fillOn {line : List String} (hline : line ≠ [])
    (hfitting : Fitting face size limit line) (ws : List String) :
    Greedy face size limit (fillOn face size limit line ws) := by
  induction ws generalizing line with
  | nil =>
      rw [fillOn_nil]
      exact ⟨fun other hother => List.mem_singleton.mp hother ▸ hline,
        fun other hother => List.mem_singleton.mp hother ▸ hfitting, List.isChain_singleton _⟩
  | cons word rest ih =>
      by_cases hfull : tryWidth face size line word > limit
      · have hnext := ih (List.cons_ne_nil word []) (fitting_singleton word)
        obtain ⟨more, lines, hlines⟩ : ∃ more lines,
            fillOn face size limit [word] rest = ([word] ++ more) :: lines :=
          exists_fillOn (List.cons_ne_nil word []) rest
        rw [hlines] at hnext
        rw [fillOn_of_full hfull, hlines]
        refine ⟨List.forall_mem_cons.mpr ⟨hline, hnext.nonempty⟩,
          List.forall_mem_cons.mpr ⟨hfitting, hnext.fitting⟩,
          List.isChain_cons_cons.mpr ⟨?_, hnext.full⟩⟩
        -- The next line begins with the word that was too much.
        intro first hfirst
        rw [List.singleton_append, List.head?_cons, Option.mem_some] at hfirst
        rwa [← hfirst]
      · rw [fillOn_of_fits hline hfull]
        exact ih (List.append_ne_nil_of_left_ne_nil hline [word]) (hfitting.concat hfull)

/-- Lines that are filled greedily go on as the filling does: whether the next word is on the
current line is settled by what was found for it. -/
theorem Greedy.eq_fillOn {line more : List String} {lines : List (List String)}
    (h : Greedy face size limit ((line ++ more) :: lines)) (hline : line ≠ []) {ws : List String}
    (hwords : more ++ lines.flatten = ws) :
    (line ++ more) :: lines = fillOn face size limit line ws := by
  induction ws generalizing line more lines with
  | nil =>
      obtain ⟨rfl, hnone⟩ := List.append_eq_nil_iff.mp hwords
      have hlines : lines = [] := List.eq_nil_iff_forall_not_mem.mpr fun other hother =>
        h.tail.nonempty other hother (List.flatten_eq_nil_iff.mp hnone other hother)
      rw [hlines, List.append_nil, fillOn_nil]
  | cons word rest ih =>
      cases more with
      | nil =>
          -- The line ends here, and the next one is not empty.
          rw [List.append_nil] at h ⊢
          rcases lines with _ | ⟨_ | ⟨first, others⟩, after⟩
          · simp at hwords
          · exact absurd rfl (h.tail.nonempty [] List.mem_cons_self)
          · obtain ⟨rfl, hrest⟩ : first = word ∧ others ++ after.flatten = rest := by
              simpa using hwords
            have hfull := (List.isChain_cons_cons.mp h.full).1 first rfl
            have htail : Greedy face size limit (([first] ++ others) :: after) := h.tail
            rw [fillOn_of_full hfull, ← ih htail (List.cons_ne_nil _ _) hrest,
              List.singleton_append]
      | cons next others =>
          obtain ⟨rfl, hrest⟩ : next = word ∧ others ++ lines.flatten = rest := by
            simpa using hwords
          have hfits := h.fitting _ List.mem_cons_self line next others rfl hline
          rw [List.append_cons] at h ⊢
          rw [fillOn_of_fits hline hfits]
          exact ih h (List.append_ne_nil_of_left_ne_nil hline [next]) hrest

/-- Lines are filled greedily. -/
theorem greedy_fill (ws : List String) : Greedy face size limit (fill face size limit ws) := by
  cases ws with
  | nil => exact ⟨by simp [fill], by simp [fill], List.isChain_nil⟩
  | cons word rest => exact greedy_fillOn (List.cons_ne_nil _ _) (fitting_singleton word) rest

/-- There is no other way to fill lines greedily. -/
theorem Greedy.eq_fill {lines : List (List String)} (h : Greedy face size limit lines) :
    lines = fill face size limit lines.flatten := by
  rcases lines with _ | ⟨_ | ⟨word, more⟩, lines⟩
  · rfl
  · exact absurd rfl (h.nonempty [] List.mem_cons_self)
  · have hline : Greedy face size limit (([word] ++ more) :: lines) := h
    exact hline.eq_fillOn (List.cons_ne_nil _ _) rfl

/-- A line that is wider than the limit, by the sum tested for its last word, has no other
word. By the running width it can have others only if the two sums differ. -/
theorem Fitting.single_or_differ {line : List String} (h : Fitting face size limit line)
    (hwide : runningWidth face size line > limit) :
    line.length ≤ 1 ∨ ∃ front word, line = front ++ [word] ∧
      ¬tryWidth face size front word > limit ∧
      runningWidth face size line ≠ tryWidth face size front word := by
  rcases List.eq_nil_or_concat' line with rfl | ⟨front, word, rfl⟩
  · exact .inl (Nat.zero_le 1)
  · cases front with
    | nil => exact .inl le_rfl
    | cons first rest =>
        have hfits := h (first :: rest) word [] rfl (List.cons_ne_nil _ _)
        exact .inr ⟨first :: rest, word, rfl, hfits, fun heq => hfits (heq ▸ hwide)⟩

end Lines

/-- Cutting the lines of a text into words and filling them again gives the same lines. -/
theorem wrap_wrap (text : String) :
    wrap face (" ".intercalate (wrap face text size limit)) size limit =
      wrap face text size limit := by
  have hwords : Text.words (" ".intercalate (wrap face text size limit)) = Text.words text := by
    rw [Text.words_intercalate_flatMap, words_wrap]
  rw [wrap, hwords, wrap]

theorem ne_empty_of_mem_wrap {text line : String} (h : line ∈ wrap face text size limit) :
    line ≠ "" := by
  obtain ⟨ws, hws, rfl⟩ := List.mem_map.mp h
  intro hempty
  have hnone := congrArg Text.words hempty
  rw [words_of_mem_fill hws, Text.words_empty] at hnone
  exact (greedy_fill _).nonempty ws hws hnone

/-- The lines of a text are its words, filled greedily, which can be done in one way only.
What is known of the width of a line of several words is that its last word fits, by the sum
that was tested. -/
theorem wrap_greedy (text : String) :
    (∃ lines, wrap face text size limit = lines.map (" ".intercalate ·) ∧
      lines.flatten = Text.words text ∧ Greedy face size limit lines ∧
      (∀ other, Greedy face size limit other → other.flatten = Text.words text →
        other = lines) ∧
      ∀ line ∈ lines, runningWidth face size line > limit →
        line.length = 1 ∨ ∃ front word, line = front ++ [word] ∧
          ¬tryWidth face size front word > limit ∧
          runningWidth face size line ≠ tryWidth face size front word) ∧
      (∀ line ∈ wrap face text size limit, line ≠ "") ∧
      (wrap face text size limit = [] ↔ Text.isBlank text = true) ∧
      wrap face (" ".intercalate (wrap face text size limit)) size limit =
        wrap face text size limit := by
  refine ⟨⟨fill face size limit (Text.words text), rfl, flatten_fill face size limit _,
    greedy_fill _, fun other hother hwords => ?_, fun line hline hwide => ?_⟩,
    fun line hline => ne_empty_of_mem_wrap face size limit hline,
    wrap_eq_nil_iff face text size limit, wrap_wrap face size limit text⟩
  · rw [hother.eq_fill, hwords]
  · have hgreedy : Greedy face size limit (fill face size limit (Text.words text)) :=
      greedy_fill _
    have hsome := List.length_pos_iff.mpr (hgreedy.nonempty line hline)
    exact ((hgreedy.fitting line hline).single_or_differ hwide).imp_left (by omega)

/-- A line of two words can be wider than the limit by its running width. -/
theorem not_forall_single :
    ¬∀ (face : Face) (text : String) (size limit : Float32),
      ∀ line ∈ fill face size limit (Text.words text),
        runningWidth face size line > limit → line.length = 1 := by
  intro h
  have hline := h .regular "W f" 10 14.999999 ["W", "f"] (by decide +kernel) (by decide +kernel)
  simp at hline

end Vitae
