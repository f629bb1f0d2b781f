import Mathlib.Data.List.DropRight
import Vitae.Text.Blank

/-!
# Trimming

Trimming takes spaces from the ends of a text and nothing else, so a text is what trimming
has left of it with spaces around (`padded_trimChars`). Where the core has no spaces of its
own, trimming stops exactly there, and it does not matter how many spaces were around it
(`trimChars_of_padded`). That is all that the readers of short texts such as versions and colors have
to know about it.

## Main definitions

* `Padded`: A text with spaces around its core.
* `withoutOne`: A text without a mark in front.

## Theorems

* `padded_trimChars`: Trimming takes away spaces only.
* `trimChars_of_padded`: A core without spaces is what trimming leaves.
* `exists_withoutOne`, `withoutOne_append`: One mark at most is taken away.
-/

namespace Vitae

namespace Text

/-- A text with any number of spaces around its core. -/
def Padded (core cs : List Char) : Prop :=
  ∃ before after, cs = before ++ core ++ after ∧ (∀ c ∈ before, isSpace c = true) ∧
    ∀ c ∈ after, isSpace c = true

variable {core cs : List Char}

/-- Trimming takes away spaces only. -/
theorem padded_trimChars (cs : List Char) : Padded (trimChars cs) cs := by
  refine ⟨cs.takeWhile isSpace, (cs.dropWhile isSpace).rtakeWhile isSpace, ?_,
    fun _ hc => List.mem_takeWhile_imp hc, fun _ hc => List.mem_rtakeWhile_imp hc⟩
  have hback : trimChars cs ++ (cs.dropWhile isSpace).rtakeWhile isSpace = cs.dropWhile isSpace :=
    List.rdropWhile_append_rtakeWhile
  rw [List.append_assoc, hback, List.takeWhile_append_dropWhile]

theorem dropWhile_of_solid (h : ∀ c ∈ core, isSpace c = false) :
    core.dropWhile isSpace = core := by
  cases core with
  | nil => rfl
  | cons c rest =>
    rw [List.dropWhile_cons_of_neg]
    rw [h c List.mem_cons_self]
    exact Bool.false_ne_true

/-- A core without spaces is what trimming leaves, whatever spaces are around it. -/
theorem trimChars_of_padded (h : Padded core cs) (hsolid : ∀ c ∈ core, isSpace c = false) :
    trimChars cs = core := by
  obtain ⟨before, after, rfl, hbefore, hafter⟩ := h
  have hend : trimEnd (core ++ after) = core := by
    rw [trimEnd, List.reverse_append,
      List.dropWhile_append_of_pos fun c hc => hafter c (List.mem_reverse.mp hc),
      dropWhile_of_solid fun c hc => hsolid c (List.mem_reverse.mp hc), List.reverse_reverse]
  rw [trimChars, List.append_assoc, List.dropWhile_append_of_pos hbefore]
  cases core with
  | nil =>
    -- There are spaces only, and trimming at the front takes all of them.
    have hnone : after.dropWhile isSpace = [] := List.dropWhile_eq_nil_iff.mpr hafter
    rw [List.nil_append, hnone]
    rfl
  | cons c rest =>
    have hhead : ¬isSpace c = true := by
      rw [hsolid c List.mem_cons_self]
      exact Bool.false_ne_true
    rw [List.cons_append, List.dropWhile_cons_of_neg hhead, ← List.cons_append, hend]

theorem padded_self (cs : List Char) : Padded cs cs :=
  ⟨[], [], (List.append_nil cs).symm, fun _ hc => absurd hc List.not_mem_nil,
    fun _ hc => absurd hc List.not_mem_nil⟩

theorem trimChars_of_solid (h : ∀ c ∈ cs, isSpace c = false) : trimChars cs = cs :=
  trimChars_of_padded (padded_self cs) h

/-! ### Marks in front -/

/-- A text without the mark in front, if there is one. -/
def withoutOne (mark : Char) : List Char → List Char
  | [] => []
  | c :: rest => if c = mark then rest else c :: rest

theorem exists_withoutOne (mark : Char) (cs : List Char) :
    ∃ front, cs = front ++ withoutOne mark cs ∧ (front = [] ∨ front = [mark]) := by
  cases cs with
  | nil => exact ⟨[], rfl, .inl rfl⟩
  | cons c rest =>
    rw [withoutOne]
    split
    · rename_i hc
      exact ⟨[mark], congrArg (· :: rest) hc, .inr rfl⟩
    · exact ⟨[], rfl, .inl rfl⟩

theorem withoutOne_append {mark : Char} {front cs : List Char} (hfront : front = [] ∨ front = [mark])
    (hcs : mark ∉ cs) : withoutOne mark (front ++ cs) = cs := by
  rcases hfront with rfl | rfl
  · cases cs with
    | nil => rfl
    | cons c rest =>
      rw [List.mem_cons, not_or] at hcs
      exact if_neg (Ne.symm hcs.1)
  · exact if_pos rfl

end Text

end Vitae
