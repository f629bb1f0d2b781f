import Vitae.Proofs.Layout.Footers

/-!
# What the Look Leaves Alone

Colors and spacing can be chosen without a second thought about the rest of a document. With
other colors the pages hold the same texts at the same places, down to the height, and with
other spacing they hold the same texts in the same order, with the same place from left to
right and in the same color (`look_compose`).

Colors are compared by dyeing: everything is given one color, and then there is nothing left to
tell the documents apart. Flowing takes no notice of colors, so it makes no difference whether
elements are dyed or the pages that they fill (`dyed_flow`), and it is enough to compare the
elements. Spacing only shows in the gaps, and gaps have no runs.

## Main definitions

* `Options.withColors`, `Options.withSpacing`: Options with another look.
* `Run.dyed`, `Element.dyed`: Texts in one color.

## Theorems

* `Flow.dyed_put`: One more element, dyed before or after.
* `dyed_flow`: The pages that dyed elements fill.
* `Composer.dyed_elements`: Other colors make other elements only before dyeing.
* `Composer.spots_elements`: Other spacing makes no other runs.
* `look_compose`: What another look leaves alone.
-/

namespace Vitae

/-- Options with the colors chosen anew. -/
def Options.withColors (options : Options) (color : Option Rgb) (darken : Bool) : Options :=
  { options with style := { options.style with darken := darken }, color := color }

/-- Options with the spacing chosen anew. -/
def Options.withSpacing (options : Options) (spaced : Bool) : Options :=
  { options with style := { options.style with spaced := spaced } }

/-! ### Dyeing -/

def Cell.dyed (ink : Rgb) (cell : Cell) : Cell := { cell with color := ink }

/-- A run in another color. -/
def Run.dyed (ink : Rgb) (run : Run) : Run := { run with color := ink }

/-- An element with all its texts in one color. -/
def Element.dyed (ink : Rgb) : Element → Element
  | .gap fraction => .gap fraction
  | .row size cells => .row size (cells.map (Cell.dyed ink))

namespace Flow

variable {page : PageConfig} {ink : Rgb}

/-- A flow with all texts on its pages in one color. -/
def dyed (ink : Rgb) (state : Flow) : Flow :=
  ⟨state.full.map (List.map (Run.dyed ink)), state.current.map (Run.dyed ink), state.cursor⟩

theorem current_dyed_ne_nil {state : Flow} : (state.dyed ink).current ≠ [] ↔ state.current ≠ [] :=
  not_congr List.map_eq_nil_iff

theorem dyed_advance (size : Float32) (state : Flow) :
    (advance page size state).dyed ink = advance page size (state.dyed ink) := by
  have hcursor : (state.dyed ink).cursor = state.cursor := rfl
  unfold advance
  simp only [current_dyed_ne_nil, hcursor]
  by_cases h : state.cursor - page.lineHeight size < page.bottom ∧ state.current ≠ []
  · rw [if_pos h, if_pos h]
    simp only [dyed, List.map_append, List.map_cons, List.map_nil]
  · rw [if_neg h, if_neg h]
    rfl

/-- Where an element goes does not depend on its color. -/
theorem dyed_put (state : Flow) (element : Element) :
    (put page state element).dyed ink = put page (state.dyed ink) (element.dyed ink) := by
  cases element with
  | gap fraction => rfl
  | row size cells =>
    -- The page break comes first, and it only asks whether anything is on the page.
    simp only [put, Element.dyed, ← dyed_advance]
    simp only [dyed, List.map_append, List.map_map]
    rfl

theorem dyed_foldl_put (elements : List Element) (state : Flow) :
    (elements.foldl (put page) state).dyed ink =
      (elements.map (Element.dyed ink)).foldl (put page) (state.dyed ink) := by
  induction elements generalizing state with
  | nil => rfl
  | cons element rest ih => rw [List.foldl_cons, ih, dyed_put, List.map_cons, List.foldl_cons]

theorem pages_dyed (state : Flow) :
    (state.dyed ink).pages = state.pages.map (List.map (Run.dyed ink)) := by
  have hfull : (state.dyed ink).full = [] ↔ state.full = [] := List.map_eq_nil_iff
  unfold pages
  simp only [current_dyed_ne_nil, hfull]
  split
  · simp only [dyed, List.map_append, List.map_cons, List.map_nil]
  · rfl

end Flow

/-- Flowing takes no notice of colors. -/
theorem dyed_flow (page : PageConfig) (ink : Rgb) (elements : List Element) :
    (flow page elements).map (List.map (Run.dyed ink)) =
      flow page (elements.map (Element.dyed ink)) := by
  rw [flow, ← Flow.pages_dyed, Flow.dyed_foldl_put]
  rfl

namespace Composer

/-! ### Other colors -/

section Colors

variable (c : Composer) {ink : Rgb} {color : Option Rgb} {darken : Bool}

/-- A composer with the colors chosen anew. -/
def withColors (c : Composer) (color : Option Rgb) (darken : Bool) : Composer :=
  ⟨c.page, c.options.withColors color darken⟩

@[simp]
theorem page_withColors : (c.withColors color darken).page = c.page :=
  rfl

theorem dyed_split (left : String) (face : Face) (right : String) (one other : Rgb) :
    ((c.withColors color darken).split left face right other).dyed ink =
      (c.split left face right one).dyed ink := by
  unfold split
  -- The second text is in the muted color, whatever the first one is in.
  simp only [Element.dyed, List.map_cons]
  split <;> rfl

theorem dyed_indented (text : String) (face : Face) (indent : Float32) {one other : Rgb}
    {mark mark' : List Cell} (hmark : mark'.map (Cell.dyed ink) = mark.map (Cell.dyed ink)) :
    ((c.withColors color darken).indented text face other indent mark').map (Element.dyed ink) =
      (c.indented text face one indent mark).map (Element.dyed ink) := by
  unfold indented
  -- Lines are broken by width, which has nothing to do with color.
  simp only [page_withColors]
  cases wrap face text c.page.body (c.page.textWidth - indent) with
  | nil => rfl
  | cons first rest =>
    simp only [List.map_cons, Element.dyed, List.map_append, hmark, List.map_map]
    rfl

theorem dyed_block (text : String) (face : Face) (one other : Rgb) :
    ((c.withColors color darken).block text face other).map (Element.dyed ink) =
      (c.block text face one).map (Element.dyed ink) :=
  c.dyed_indented text face 0 rfl

theorem dyed_bulleted (text : String) (one other : Rgb) :
    ((c.withColors color darken).bulleted text other).map (Element.dyed ink) =
      (c.bulleted text one).map (Element.dyed ink) :=
  c.dyed_indented text .regular _ rfl

theorem dyed_header (personal : Personal) :
    ((c.withColors color darken).header personal).map (Element.dyed ink) =
      (c.header personal).map (Element.dyed ink) := by
  unfold header
  simp only [List.map_append]
  congr 1
  · congr 1
    · cases personal.name with
      | none => rfl
      | some name =>
        simp only
        split <;> rfl
    · split <;> rfl
  · split <;> rfl

theorem dyed_item (item : Item) :
    ((c.withColors color darken).item item).map (Element.dyed ink) =
      (c.item item).map (Element.dyed ink) := by
  cases item with
  | paragraph text => exact c.dyed_block _ _ _ _
  | skill category content => exact c.dyed_block _ _ _ _
  | entry title subtitle btag ttag details =>
    simp only [Composer.item, List.map_cons, List.map_flatMap]
    congr 1
    · exact c.dyed_split _ _ _ _ _
    · congr 1
      · exact c.dyed_split _ _ _ _ _
      · exact congrArg (details.flatMap ·) (funext fun detail => c.dyed_bulleted _ _ _)
  | honor title subtitle ltag rtag =>
    exact congrArg (fun row => [row]) (c.dyed_split _ _ _ _ _)

theorem dyed_paragraph (item : Item) :
    ((c.withColors color darken).paragraph item).map (Element.dyed ink) =
      (c.paragraph item).map (Element.dyed ink) := by
  cases item with
  | paragraph text => exact c.dyed_block _ _ _ _
  | skill category content => rfl
  | entry title subtitle btag ttag details => rfl
  | honor title subtitle ltag rtag => rfl

theorem dyed_sectionOf (kind : Kind) (s : Section) :
    ((c.withColors color darken).sectionOf kind s).map (Element.dyed ink) =
      (c.sectionOf kind s).map (Element.dyed ink) := by
  cases kind with
  | cv =>
    simp only [sectionOf, cvSection, List.map_cons, map_separated, dyed_item]
    rfl
  | coverLetter =>
    simp only [sectionOf, letterSection, map_separated, dyed_paragraph]
    rfl

/-- Other colors make other elements only before dyeing. -/
theorem dyed_elements (kind : Kind) (document : Document) :
    ((c.withColors color darken).elements kind document).map (Element.dyed ink) =
      (c.elements kind document).map (Element.dyed ink) := by
  unfold elements
  simp only [apply_ite (List.map (Element.dyed ink)), List.map_append, List.map_cons,
    map_separated, dyed_sectionOf, dyed_header]
  rfl

theorem dyed_withFooters (label : String) {pages other : List Page}
    (h : other.map (List.map (Run.dyed ink)) = pages.map (List.map (Run.dyed ink))) :
    ((c.withColors color darken).withFooters label other).map (List.map (Run.dyed ink)) =
      (c.withFooters label pages).map (List.map (Run.dyed ink)) := by
  have hlength : other.length = pages.length := by
    rw [← List.length_map (List.map (Run.dyed ink)), h, List.length_map]
  -- A page is dyed with its footer if both are dyed.
  have hfooter : ∀ (c : Composer) (pages : List Page) (i : Nat),
      ((c.withFooters label pages).map (List.map (Run.dyed ink)))[i]? =
        (pages.map (List.map (Run.dyed ink)))[i]?.map
          (· ++ [(c.footer label (1 + i) pages.length).dyed ink]) := by
    intro c pages i
    rw [withFooters, List.getElem?_map, getElem?_footersFrom, List.getElem?_map, Option.map_map,
      Option.map_map]
    refine congrArg (Option.map · pages[i]?) (funext fun page => ?_)
    simp only [Function.comp_apply, List.map_append, List.map_cons, List.map_nil]
  refine List.ext_getElem? fun i => ?_
  rw [hfooter, hfooter, h, hlength]
  rfl

end Colors

/-! ### Other spacing -/

section Spacing

variable (c : Composer) {spaced : Bool}

/-- A composer with the spacing chosen anew. -/
def withSpacing (c : Composer) (spaced : Bool) : Composer :=
  ⟨c.page, c.options.withSpacing spaced⟩

theorem spots_sectionOf (kind : Kind) (s : Section) :
    ((c.withSpacing spaced).sectionOf kind s).flatMap Element.spots =
      (c.sectionOf kind s).flatMap Element.spots := by
  cases kind with
  | cv =>
    have hgap : ∀ b : Bool, (if b then [Element.gap 0.4] else []).flatMap Element.spots = [] := by
      intro b
      cases b <;> rfl
    rw [sectionOf, sectionOf, cvSection, cvSection, List.flatMap_cons, List.flatMap_cons,
      flatMap_separated (hgap _), flatMap_separated (hgap _)]
    rfl
  | coverLetter =>
    rw [sectionOf, sectionOf, letterSection, letterSection, flatMap_separated rfl,
      flatMap_separated rfl]
    rfl

/-- Other spacing makes no other runs. -/
theorem spots_elements (kind : Kind) (document : Document) :
    ((c.withSpacing spaced).elements kind document).flatMap Element.spots =
      (c.elements kind document).flatMap Element.spots := by
  have hsections : ∀ c : Composer,
      (separated [.gap 0.8] (c.sectionOf kind) document.sections).flatMap Element.spots =
        document.sections.flatMap fun s => (c.sectionOf kind s).flatMap Element.spots :=
    fun c => flatMap_separated rfl document.sections
  unfold elements
  simp only [apply_ite (List.flatMap Element.spots), List.flatMap_append, List.flatMap_cons,
    hsections, spots_sectionOf]
  rfl

end Spacing

end Composer

/-- Other colors leave everything on the pages as it is except for the colors. Other spacing
leaves the runs, footers aside, as they are except for their height and their page. -/
theorem look_compose (document : Document) (kind : Kind) (options : Options) (page : PageConfig) :
    (∀ color darken ink,
      (compose document kind (options.withColors color darken) page).map
          (List.map (Run.dyed ink)) =
        (compose document kind options page).map (List.map (Run.dyed ink))) ∧
    ∀ spaced,
      (withoutFooters (options.withSpacing spaced)
          (compose document kind (options.withSpacing spaced) page)).flatten.map Run.spot =
        (withoutFooters options (compose document kind options page)).flatten.map Run.spot := by
  refine ⟨fun color darken ink => ?_, fun spaced => ?_⟩
  · have hflow : (flow page (Composer.elements ⟨page, options.withColors color darken⟩ kind
          document)).map (List.map (Run.dyed ink)) =
        (flow page (Composer.elements ⟨page, options⟩ kind document)).map
          (List.map (Run.dyed ink)) := by
      rw [dyed_flow, dyed_flow]
      exact congrArg (flow page) (Composer.dyed_elements ⟨page, options⟩ kind document)
    have hfooter : (options.withColors color darken).style.footer = options.style.footer := rfl
    unfold compose
    simp only [hfooter]
    split
    · exact Composer.dyed_withFooters ⟨page, options⟩ _ hflow
    · exact hflow
  · rw [withoutFooters_compose, withoutFooters_compose, spots_flow, spots_flow]
    exact Composer.spots_elements ⟨page, options⟩ kind document

end Vitae
