import Vitae.Document.Classify
import Vitae.Files.Path

/-!
# Problems in Documents

What can be wrong with a document that is well-formed JSON. Problems are kept
as causes together with the place they were found at, and are put into words
only when they are reported.

## Main definitions

* `FileFault`: Why an item file is of no use.
* `ItemProblem`: What is wrong with an item.
* `Location`: The place of an item.
* `Problem`: What is wrong with a document.
* `Problem.message`: A problem in words.
-/

namespace Vitae

/-- Why an item file is of no use. -/
inductive FileFault where
  /-- There is no regular file of that name. -/
  | missing (path : Path)
  /-- The file could not be read as text. -/
  | unreadable (path : Path) (reason : String)
  /-- The file holds something else than items by id. -/
  | invalid (path : Path) (fault : Json.Fault)

/-- Why an item file is of no use, in words. -/
def FileFault.describe : FileFault → String
  | .missing path => "does not point to an existing file (" ++ path.display ++ ")"
  | .unreadable path reason =>
    "points to an unreadable file (" ++ path.display ++ "): " ++ reason
  | .invalid path fault =>
    "points to an invalid item file (" ++ path.display ++ "): " ++ fault.message

/-- What is wrong with an item. -/
inductive ItemProblem where
  /-- A reference that does not name a file and an id. -/
  | malformedReference (text : String)
  /-- A reference to an id that its file does not have. -/
  | unknownId (id file : String)
  /-- A reference to a file that is of no use. -/
  | unusableFile (text : String) (fault : FileFault)
  /-- A prop given more than once. -/
  | repeatedKey (key : String) (earlier : Nat)
  /-- A prop that no kind of items has. -/
  | unknownKey (key : String)
  /-- A prop that holds the wrong thing. -/
  | wrongShape (key : String) (expected : Shape) (found : Json.Value)
  /-- A label given more than once. -/
  | repeatedLabel (name : String) (earlier : Nat)
  /-- A label whose name invokes something. -/
  | invocationInName (name : String)
  /-- A label whose text invokes something. -/
  | invocationInText (name : String)
  /-- Props that do not belong to one kind of items. -/
  | unknownKind (keys : List String)
  /-- An item that has no place in a cover letter. -/
  | notAParagraph (kind : ItemKind)
  /-- An item that differs in kind from the earlier ones of its section. -/
  | mixedKinds (kind : ItemKind) (sectionName : String) (earlier : ItemKind)

/-- The place of an item: its number and the name of its section. -/
structure Location where
  number : Nat
  sectionName : String
deriving DecidableEq, Repr

/-- What is wrong with a document. -/
inductive Problem where
  /-- A section without a name. -/
  | blankName (number : Nat)
  /-- Something wrong with an item. -/
  | item (place : Location) (cause : ItemProblem)

/-- A JSON value as it is called in a problem. -/
def describeValue : Json.Value → String
  | .null => "null"
  | .boolean _ => "a boolean"
  | .number _ => "a number"
  | .text _ => "a string"
  | .list _ => "a list"
  | .object _ => "an object"

/-- The place of an item, in words. -/
def Location.describe (place : Location) : String :=
  "item #" ++ toString place.number ++ " of section " ++ Text.quoted place.sectionName

/-- What is wrong with an item, in words that follow its place. -/
def ItemProblem.describe : ItemProblem → String
  | .malformedReference text =>
    ": " ++ Text.quoted text ++ " is not of the form \"<file>::<item id>\""
  | .unknownId id file =>
    ": item " ++ Text.quoted id ++ " does not exist in referenced file \"" ++ file ++ ".json\""
  | .unusableFile text fault => ": reference " ++ Text.quoted text ++ " " ++ fault.describe
  | .repeatedKey key earlier =>
    " has a duplicate prop key " ++ Text.quoted key ++ ", previously found " ++
      toString earlier ++ " other(s)"
  | .unknownKey key => " has an invalid prop key " ++ Text.quoted key
  | .wrongShape key expected found =>
    ": prop key " ++ Text.quoted key ++ " expected " ++ expected.describe ++ ", found " ++
      describeValue found
  | .repeatedLabel name earlier =>
    " has a duplicate label " ++ Text.quoted name ++ ", previously found " ++
      toString earlier ++ " other(s)"
  | .invocationInName name =>
    ": label key " ++ Text.quoted name ++ " cannot contain an invocation"
  | .invocationInText name =>
    ": label value of " ++ Text.quoted name ++ " cannot contain an invocation"
  | .unknownKind keys =>
    " has an undeterminable type due to an invalid combination of props [" ++
      ", ".intercalate keys ++ "]"
  | .notAParagraph kind =>
    " is of type " ++ kind.name ++ ", but cover letters accept paragraph items only"
  | .mixedKinds kind sectionName earlier =>
    " is of type " ++ kind.name ++ ", but section " ++ Text.quoted sectionName ++
      " previously accepted items of type " ++ earlier.name

def Problem.message : Problem → String
  | .blankName number => "section #" ++ toString number ++ " has a blank name"
  | .item place cause => place.describe ++ cause.describe

end Vitae
