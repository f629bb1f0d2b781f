import Vitae.Proofs.Layout.Flow
import Vitae.Proofs.Layout.Wrap

/-!
# No Word Is Lost

The words on the pages of a document, read page by page and run by run, are known
before anything is laid out: those of the header, if there is one, and then
`documentWords`, which looks at the sections and the kind of the document and at
nothing else. Page size, margins, type sizes, spacing, faces and colors can move
words about, and no choice of them adds, drops or reorders one.

A flow keeps the texts of its elements in order, so the count comes down to the
elements. There each shape has its own lemma: a row has the words of its cells, a
block of running text those of the text however it is broken, and a gap none.

The mark in front of a particular is a word of its own. It is drawn with the first
line only, so a blank particular, which has no lines, has no mark either.

## Main definitions

* `Element.words`, `pageWords`: The words of elements and of pages.
* `headerWords`, `Item.words`, `Section.words`, `documentWords`: The words a
  document is due to show.

## Theorems

* `words_flow`: The pages show the words of what flowed.
* `words_indented`: Running text keeps its words, whatever the indent.
* `words_split`: A row of two texts has the words of both.
* `words_cvSection`, `words_letterSection`: The words of a section.
* `words_compose`: The words of a document do not depend on its look.
-/

namespace Vitae

/-- The words of an element, from left to right. -/
def Element.words (element : Element) : List String :=
  element.spots.flatMap (fun spot => Text.words spot.2.text)

/-- The words on pages, run by run. -/
def pageWords (pages : List Page) : List String :=
  pages.flatten.flatMap (fun run => Text.words run.text)

/-- The words of a header: the name, the titles and the contacts. -/
def headerWords (personal : Personal) : List String :=
  Text.words (personal.name.getD "") ++
    Text.words (" | ".intercalate (personal.titles.filter (fun t => !Text.isBlank t))) ++
    Text.words (" | ".intercalate personal.contacts)

/-- The words of an item of a curriculum vitae. A particular that is not blank has
a mark in front. -/
def Item.words : Item → List String
  | .paragraph text => Text.words text
  | .skill category content => Text.words (category ++ ": " ++ content)
  | .entry title subtitle btag ttag details =>
    Text.words title ++ Text.words btag ++ Text.words subtitle ++ Text.words ttag ++
      details.flatMap (fun detail =>
        if Text.isBlank detail then [] else "-" :: Text.words detail)
  | .honor title subtitle ltag rtag =>
    (if ltag.isEmpty then [] else Text.words ltag) ++ Text.words (title ++ ", " ++ subtitle) ++
      Text.words rtag

/-- The words of an item of a cover letter, which shows paragraphs only. -/
def Item.letterWords : Item → List String
  | .paragraph text => Text.words text
  | _ => []

/-- The words of a section. A cover letter does not show its name. -/
def Section.words : Kind → Section → List String
  | .cv, s => Text.words (Text.uppercase s.name) ++ s.items.flatMap Item.words
  | .coverLetter, s => s.items.flatMap Item.letterWords

/-- The words of the sections of a document. -/
def documentWords (kind : Kind) (sections : List Section) : List String :=
  sections.flatMap (Section.words kind)

/-- The pages show the words of what flowed, in order. -/
theorem words_flow (page : PageConfig) (elements : List Element) :
    pageWords (flow page elements) = elements.flatMap Element.words := by
  have hspots := congrArg
    (List.flatMap (fun spot : Float32 × Cell => Text.words spot.2.text))
    (spots_flow page elements)
  rw [List.flatMap_map, List.flatMap_assoc] at hspots
  exact hspots

@[simp]
theorem words_gap (fraction : Float32) : (Element.gap fraction).words = [] :=
  rfl

theorem words_row (size : Float32) (cells : List Cell) :
    (Element.row size cells).words = cells.flatMap (fun cell => Text.words cell.text) := by
  rw [Element.words, Element.spots, List.flatMap_map]

section Parts

variable (c : Composer)

theorem words_line (text : String) (size : Float32) (face : Face) (color : Rgb) :
    (c.line text size face color).words = Text.words text := by
  rw [Composer.line, words_row, List.flatMap_singleton]

theorem words_centered (text : String) (size : Float32) (face : Face) (color : Rgb) :
    (c.centered text size face color).words = Text.words text := by
  rw [Composer.centered, words_row, List.flatMap_singleton]

/-- A row of two texts has the words of both, also if the second one is missing. -/
theorem words_split (left : String) (face : Face) (right : String) (color : Rgb) :
    (c.split left face right color).words = Text.words left ++ Text.words right := by
  rw [Composer.split, words_row]
  by_cases hright : right = ""
  · simp [hright]
  · simp [hright]

/-- Running text keeps its words however wide it is, and the mark goes in front
where there is text at all. -/
theorem words_indented (text : String) (face : Face) (color : Rgb) (indent : Float32)
    (mark : List Cell) :
    (c.indented text face color indent mark).flatMap Element.words =
      if Text.isBlank text then []
      else mark.flatMap (fun cell => Text.words cell.text) ++ Text.words text := by
  have hwords := words_wrap face text c.page.body (c.page.textWidth - indent)
  have hnil := wrap_eq_nil_iff face text c.page.body (c.page.textWidth - indent)
  unfold Composer.indented
  simp only
  cases hlines : wrap face text c.page.body (c.page.textWidth - indent) with
  | nil =>
      rw [hlines] at hnil
      simp only [List.flatMap_nil, if_pos (hnil.mp rfl)]
  | cons first rest =>
      rw [hlines] at hnil hwords
      have hblank : ¬Text.isBlank text = true := fun h => List.cons_ne_nil _ _ (hnil.mpr h)
      rw [if_neg hblank, ← hwords, List.flatMap_cons, words_row, List.flatMap_append,
        List.flatMap_singleton, List.flatMap_map, List.append_assoc, List.flatMap_cons]
      simp only [words_row, List.flatMap_singleton]

theorem words_block (text : String) (face : Face) (color : Rgb) :
    (c.block text face color).flatMap Element.words = Text.words text := by
  rw [Composer.block, words_indented]
  split
  · rename_i hblank
    exact ((Text.words_eq_nil_iff text).mpr hblank).symm
  · rw [List.flatMap_nil, List.nil_append]

theorem words_bulleted (text : String) (color : Rgb) :
    (c.bulleted text color).flatMap Element.words =
      if Text.isBlank text then [] else "-" :: Text.words text := by
  have hmark : Text.words Composer.bullet = ["-"] :=
    Text.words_of_isWord (Text.isWord_of_all (by decide) rfl)
  rw [Composer.bulleted, words_indented, List.flatMap_singleton, hmark, List.singleton_append]

theorem words_header (personal : Personal) :
    (c.header personal).flatMap Element.words = headerWords personal := by
  unfold Composer.header headerWords
  simp only [List.flatMap_append]
  congr 1
  · congr 1
    · cases personal.name with
      | none => simp
      | some name =>
          -- A blank name is left out, and it has no words anyway.
          by_cases hblank : Text.isBlank name = true
          · simp only [if_pos hblank, List.flatMap_nil, Option.getD_some]
            exact ((Text.words_eq_nil_iff name).mpr hblank).symm
          · simp only [if_neg hblank, List.flatMap_singleton, words_centered, Option.getD_some]
    · cases personal.titles.filter (fun t => !Text.isBlank t) with
      | nil => simp
      | cons title rest => simp [words_centered]
  · cases personal.contacts with
    | nil => simp
    | cons contact rest => simp [words_centered]

theorem words_item (item : Item) : (c.item item).flatMap Element.words = item.words := by
  cases item with
  | paragraph text => exact words_block c text _ _
  | skill category content => exact words_block c _ _ _
  | entry title subtitle btag ttag details =>
      simp only [Composer.item, List.flatMap_cons, words_split, List.flatMap_assoc,
        words_bulleted, Item.words, List.append_assoc]
  | honor title subtitle ltag rtag =>
      simp only [Composer.item, List.flatMap_singleton, words_split, Item.words]
      by_cases hltag : ltag.isEmpty = true
      · simp only [if_pos hltag, List.nil_append]
      · -- Two blanks set the tag apart; the second one is at the head of the rest.
        have hgap : ltag ++ "  " ++ (title ++ ", " ++ subtitle) =
            ltag ++ " " ++ ("" ++ " " ++ (title ++ ", " ++ subtitle)) := by
          rw [show "  " = " " ++ " " by decide, String.empty_append]
          simp only [String.append_assoc]
        simp only [if_neg hltag, hgap, Text.words_append_space, Text.words_empty,
          List.nil_append]

theorem words_paragraph (item : Item) :
    (c.paragraph item).flatMap Element.words = item.letterWords := by
  cases item with
  | paragraph text => exact words_block c text _ _
  | skill category content => rfl
  | entry title subtitle btag ttag details => rfl
  | honor title subtitle ltag rtag => rfl

theorem words_cvSection (s : Section) :
    (c.cvSection s).flatMap Element.words = s.words .cv := by
  rw [Composer.cvSection, List.flatMap_cons, words_line, Composer.flatMap_separated]
  · simp only [words_item, Section.words]
  · split <;> rfl

theorem words_letterSection (s : Section) :
    (c.letterSection s).flatMap Element.words = s.words .coverLetter := by
  rw [Composer.letterSection, Composer.flatMap_separated rfl]
  simp only [words_paragraph, Section.words]

theorem words_sectionOf (kind : Kind) (s : Section) :
    (c.sectionOf kind s).flatMap Element.words = s.words kind := by
  cases kind with
  | cv => exact words_cvSection c s
  | coverLetter => exact words_letterSection c s

theorem words_elements (kind : Kind) (document : Document) :
    (c.elements kind document).flatMap Element.words =
      (if c.options.style.header then
          headerWords (effectivePersonal document.personal c.options)
        else []) ++ documentWords kind document.sections := by
  have hsections : (Composer.separated [.gap 0.8] (c.sectionOf kind)
      document.sections).flatMap Element.words = documentWords kind document.sections := by
    rw [Composer.flatMap_separated rfl]
    simp only [words_sectionOf, documentWords]
  unfold Composer.elements
  by_cases hheader : c.options.style.header = true
  · simp only [if_pos hheader, List.flatMap_append, words_header]
    cases hnone : document.sections with
    | nil => simp [documentWords]
    | cons s rest =>
        simp only [List.isEmpty_cons, Bool.false_eq_true, if_false, List.flatMap_cons,
          words_gap, List.nil_append]
        rw [← hnone, hsections]
  · simp only [if_neg hheader, hsections, List.nil_append]

end Parts

/-- The words on the pages of a document, its footers aside, are those of the
header, if there is one, followed by those of the sections. Nothing about the look
of the document enters into them. -/
theorem words_compose (document : Document) (kind : Kind) (options : Options)
    (page : PageConfig) :
    pageWords (withoutFooters options (compose document kind options page)) =
      (if options.style.header then
          headerWords (effectivePersonal document.personal options)
        else []) ++ documentWords kind document.sections := by
  rw [withoutFooters_compose, words_flow, words_elements]

end Vitae
