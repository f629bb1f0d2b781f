import Vitae.Document.Source

/-!
# Telling Items Apart

Nothing in a source says what kind an item is of. It shows in the props: every
kind has required and optional ones, and an item is of a kind if it has all
that are required, any of the optional ones, and nothing else.

The measure behind this is the similarity of two sets, the number of their
common elements divided by the number of all elements. Optional props are left
out of the comparison, so an item fits a kind when the similarity of its
remaining props and the required ones reaches one.

## Main definitions

* `ItemKind.required`, `ItemKind.optional`: The props of a kind of items.
* `similarity`: How much a set of props resembles the required ones.
* `classify`: The kind a set of props belongs to.
* `Shape`, `shapeOf`: What a prop holds.
-/

namespace Vitae

def ItemKind.required : ItemKind → List String
  | .paragraph => ["paragraph"]
  | .skills => ["category", "content"]
  | .entries => ["title", "subtitle", "btag", "ttag"]
  | .honors => ["title", "subtitle", "ltag", "rtag"]

def ItemKind.optional : ItemKind → List String
  | .entries => [labelsKey, "details"]
  | _ => [labelsKey]

/-- How much a set of props resembles the required ones of a kind: the common
props over all of them, where optional props do not count. -/
def similarity (props : List String) (kind : ItemKind) : Float32 :=
  let relevant := (props.filter (fun p => !kind.optional.contains p)).eraseDups
  let common := kind.required.filter (fun p => relevant.contains p)
  let further := relevant.filter (fun p => !kind.required.contains p)
  common.length.toFloat32 / (kind.required.length + further.length).toFloat32

def classify (props : List String) : Option ItemKind :=
  ItemKind.all.find? (fun kind => decide (1 ≤ similarity props kind))

/-- What a prop holds. -/
inductive Shape where
  | text
  | texts
  | textMap
deriving DecidableEq, Repr

/-- What a prop was expected to hold, in words. -/
def Shape.describe : Shape → String
  | .text => "a string"
  | .texts => "a list of strings"
  | .textMap => "an object of strings"

/-- What the prop of the given name holds, if there is such a prop. -/
def shapeOf (key : String) : Option Shape :=
  if ["paragraph", "category", "content", "title", "subtitle", "btag", "ttag", "ltag",
      "rtag"].contains key then some .text
  else if key = "details" then some .texts
  else if key = labelsKey then some .textMap
  else none

def Shape.fits : Shape → Json.Value → Bool
  | .text, .text _ => true
  | .texts, .list values => values.all (fun v => v.text?.isSome)
  | .textMap, .object members => members.all (fun m => m.2.text?.isSome)
  | _, _ => false

end Vitae
