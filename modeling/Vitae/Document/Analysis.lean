import Vitae.Document.Kind
import Vitae.Document.Reference

/-!
# Analysis

From a document as written to one that can be laid out. Items are taken one
after the other: a reference is resolved, the props are checked, and the item
is filed under the name of its section, unless the section holds items of
another kind or the document is a cover letter, which has running text only.
Sections of the same name become one, at the place of the first.

Nothing is given up at the first problem. An item with a problem is left out
and the next one is looked at, so that one run shows everything that is wrong;
only then does the analysis fail.

## Main definitions

* `Analysis`: What has come together so far.
* `Analysis.file`: Files an item under a section.
* `Analysis.takeItem`, `Analysis.takeSection`: One step of the analysis.
* `analyze`: The document a source describes, or all its problems.
-/

namespace Vitae

/-- What has come together so far. -/
structure Analysis where
  problems : List Problem
  /-- The sections with what has been filed under them. -/
  sections : List Section
  /-- The item files loaded on the way. -/
  shelf : Shelf

namespace Analysis

/-- Nothing has been looked at. -/
def start : Analysis := ⟨[], [], .empty⟩

/-- The kind of items a section holds so far. -/
def kindOf (sections : List Section) (name : String) : Option ItemKind :=
  (sections.find? (fun s => s.name == name)).map Section.kind

/-- The sections with one more item under the given name. -/
def file (name : String) (item : Item) : List Section → List Section
  | [] => [⟨name, item.kind, [item]⟩]
  | s :: rest =>
    if s.name = name then { s with items := s.items ++ [item] } :: rest
    else s :: file name item rest

/-- Why an item of the given kind cannot be filed under a section. -/
def refusal (document : Kind) (sections : List Section) (name : String) (kind : ItemKind) :
    Option ItemProblem :=
  if document = .coverLetter ∧ kind ≠ .paragraph then some (.notAParagraph kind)
  else
    match kindOf sections name with
    | some earlier => if earlier = kind then none else some (.mixedKinds kind name earlier)
    | none => none

/-- The item a raw item stands for, given what its reference was resolved to. -/
def accept (document : Kind) (sections : List Section) (name : String)
    (props : Except ItemProblem Props) : Except (List ItemProblem) Item :=
  match props with
  | .error problem => .error [problem]
  | .ok props =>
    match props.check with
    | .error problems => .error problems
    | .ok item =>
      match refusal document sections name item.kind with
      | some problem => .error [problem]
      | none => .ok item

/-- The props of a raw item, and the shelf afterwards. -/
def propsOf (load : String → LoadedFile) (shelf : Shelf) :
    RawItem → Except ItemProblem Props × Shelf
  | .inline props => (.ok props, shelf)
  | .reference text => shelf.resolve load text

def takeItem (document : Kind) (load : String → LoadedFile) (place : Location)
    (state : Analysis) (raw : RawItem) : Analysis :=
  let (props, shelf) := propsOf load state.shelf raw
  match accept document state.sections place.sectionName props with
  | .ok item =>
    { state with sections := file place.sectionName item state.sections, shelf := shelf }
  | .error causes =>
    { state with problems := state.problems ++ causes.map (.item place), shelf := shelf }

/-- Looks at the items of a section from some item on. -/
def takeItems (document : Kind) (load : String → LoadedFile) (name : String) :
    Nat → List RawItem → Analysis → Analysis
  | _, [], state => state
  | number, raw :: rest, state =>
    takeItems document load name (number + 1) rest
      (takeItem document load ⟨number, name⟩ state raw)

/-- Looks at one section. Without a name there is nothing to file its items
under. -/
def takeSection (document : Kind) (load : String → LoadedFile) (number : Nat)
    (raw : RawSection) (state : Analysis) : Analysis :=
  if Text.isBlank raw.name then
    { state with problems := state.problems ++ [.blankName number] }
  else takeItems document load raw.name 1 raw.items state

/-- Looks at the sections from some section on. -/
def takeSections (document : Kind) (load : String → LoadedFile) :
    Nat → List RawSection → Analysis → Analysis
  | _, [], state => state
  | number, raw :: rest, state =>
    takeSections document load (number + 1) rest (takeSection document load number raw state)

/-- Looks at a whole source. -/
def run (document : Kind) (load : String → LoadedFile) (source : Source) : Analysis :=
  takeSections document load 1 source.sections start

end Analysis

def analyze (document : Kind) (load : String → LoadedFile) (source : Source) :
    Except (List Problem) Document :=
  let state := Analysis.run document load source
  if state.problems.isEmpty then .ok ⟨source.personal, state.sections⟩
  else .error state.problems

end Vitae
