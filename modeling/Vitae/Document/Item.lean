import Vitae.Document.Personal

/-!
# Items, Sections, Documents

The shape of a document that is ready to be laid out: sections in order, each
with items of one kind.

## Main definitions

* `ItemKind`, `Item`: What a section may list.
* `Section`: A named list of items of one kind.
* `Document`: Personal details and sections.
-/

namespace Vitae

/-- The kinds of items. -/
inductive ItemKind where
  | paragraph
  | skills
  | entries
  | honors
deriving DecidableEq, Repr

def ItemKind.name : ItemKind → String
  | .paragraph => "paragraph"
  | .skills => "skills"
  | .entries => "entries"
  | .honors => "honors"

def ItemKind.all : List ItemKind := [.paragraph, .skills, .entries, .honors]

/-- What a section lists. -/
inductive Item where
  /-- Running text. -/
  | paragraph (text : String)
  /-- A field of competence and what is in it. -/
  | skill (category content : String)
  /-- A station of a career: what and where, place and time, and particulars. -/
  | entry (title subtitle btag ttag : String) (details : List String)
  /-- A distinction with a tag on either side. -/
  | honor (title subtitle ltag rtag : String)
deriving DecidableEq, Repr

def Item.kind : Item → ItemKind
  | .paragraph _ => .paragraph
  | .skill _ _ => .skills
  | .entry _ _ _ _ _ => .entries
  | .honor _ _ _ _ => .honors

/-- A named list of items of one kind. -/
structure Section where
  name : String
  kind : ItemKind
  items : List Item
deriving DecidableEq, Repr

/-- A document ready to be laid out. -/
structure Document where
  personal : Personal
  sections : List Section
deriving DecidableEq, Repr

end Vitae
