import Vitae.Document.Check

/-!
# References

An item can be kept in a file of its own and referred to by the name of the
file and an id in it, with two colons between them. Several references may lead
to one file, which is then loaded only once: what the first reference found,
good or bad, is remembered for the others.

Loading is left to the caller, as a function from the name of a file to what
was found there.

## Main definitions

* `Reference`: The two parts of a reference.
* `Reference.parse?`: A reference from its text.
* `LoadedFile`: What was found in an item file.
* `Shelf`: The item files loaded so far.
* `Shelf.resolve`: The props a reference leads to.
-/

namespace Vitae

/-- The two parts of a reference. -/
structure Reference where
  file : String
  id : String
deriving DecidableEq, Repr

/-- A reference from its text: two parts that are not blank. -/
def Reference.parse? (text : String) : Option Reference :=
  match Text.splitAll [':', ':'] text.toList with
  | [file, id] =>
    if file.all Text.isSpace || id.all Text.isSpace then none
    else some ⟨String.ofList file, String.ofList id⟩
  | _ => none

abbrev LoadedFile := Except FileFault ItemFile

/-- The use of an item file by a reference. -/
structure FileUse where
  reference : String
  /-- Whether the file was there already. -/
  remembered : Bool
deriving DecidableEq, Repr

/-- The item files loaded so far. -/
structure Shelf where
  /-- What was found, by the name of the file. -/
  files : List (String × LoadedFile)
  uses : List FileUse

namespace Shelf

/-- No file has been loaded. -/
def empty : Shelf := ⟨[], []⟩

/-- What a file holds, and the shelf once it is there. -/
def obtain (shelf : Shelf) (load : String → LoadedFile) (text : String) (file : String) :
    LoadedFile × Shelf :=
  match shelf.files.lookup file with
  | some found => (found, { shelf with uses := shelf.uses ++ [⟨text, true⟩] })
  | none =>
    let found := load file
    (found, ⟨shelf.files ++ [(file, found)], shelf.uses ++ [⟨text, false⟩]⟩)

/-- The props that a reference leads to in what its file was found to hold. -/
def lookUp (text : String) (reference : Reference) : LoadedFile → Except ItemProblem Props
  | .ok items =>
    match items.get? reference.id with
    | some props => .ok props
    | none => .error (.unknownId reference.id reference.file)
  | .error fault => .error (.unusableFile text fault)

/-- The props a reference leads to, and the shelf afterwards. -/
def resolve (shelf : Shelf) (load : String → LoadedFile) (text : String) :
    Except ItemProblem Props × Shelf :=
  match Reference.parse? text with
  | none => (.error (.malformedReference text), shelf)
  | some reference =>
    let (found, shelf) := shelf.obtain load text reference.file
    (lookUp text reference found, shelf)

end Shelf

end Vitae
