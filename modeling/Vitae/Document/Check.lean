import Vitae.Document.Labels
import Vitae.Document.Problem

/-!
# Checking an Item

An item is looked at on its own: repeated props, props that do not exist or
hold the wrong thing, labels that cannot be resolved, and finally the kind that
the props add up to. Every check is made whatever the others found, so all that
is wrong with an item is reported at once, and the item is accepted when
nothing was.

A prop that is null counts as absent, though its name must still be that of a
prop.

## Main definitions

* `Props.problems`: All that is wrong with an item.
* `Props.labels`: The labels of an item.
* `Props.item`: The item of a given kind that the props spell out.
* `Props.check`: The item, or what is wrong with it.
-/

namespace Vitae

namespace Props

/-- Whether a prop counts as present: it exists, is not null and holds what it
should. -/
def counts (member : String × Json.Value) : Bool :=
  match shapeOf member.1 with
  | some shape => !member.2.isNull && shape.fits member.2
  | none => false

/-- The names of the props that are present, in ascending order. -/
def present (props : Props) : List String :=
  (props.members.filter counts).map Prod.fst

/-- What is wrong with a single prop. -/
def memberProblems (member : String × Json.Value) : List ItemProblem :=
  match shapeOf member.1 with
  | none => [.unknownKey member.1]
  | some shape =>
    if member.2.isNull || shape.fits member.2 then []
    else [.wrongShape member.1 shape member.2]

/-- The labels of an item. Values that are not texts are left out here; they
are reported as a prop of the wrong shape. -/
def labels (props : Props) : List Label :=
  match (props.members.get? labelsKey).bind Json.Value.object? with
  | some members => members.filterMap (fun m => m.2.text?.map (fun text => ⟨m.1, text⟩))
  | none => []

def labelProblems (label : Label) : List ItemProblem :=
  (if hasInvocation label.name then [.invocationInName label.name] else []) ++
    (if hasInvocation label.text then [.invocationInText label.name] else [])

/-- What is wrong with the labels. Repeats are of interest only if the labels
are an object at all. -/
def labelsProblems (props : Props) : List ItemProblem :=
  match (props.members.get? labelsKey).bind Json.Value.object? with
  | some _ =>
    props.repeatedLabels.map (fun r => .repeatedLabel r.1 r.2) ++
      props.labels.flatMap labelProblems
  | none => []

/-- The kind of item the props that are present add up to. -/
def kind? (props : Props) : Option ItemKind :=
  classify props.present

/-- All that is wrong with an item, in the order of the checks. -/
def problems (props : Props) : List ItemProblem :=
  props.repeatedKeys.map (fun r => .repeatedKey r.1 r.2) ++
    props.members.flatMap memberProblems ++
    props.labelsProblems ++
    (if props.kind?.isNone then [.unknownKind props.present] else [])

/-- The text of a prop with its labels resolved. -/
def textOf (props : Props) (key : String) : String :=
  substitute props.labels (((props.members.get? key).bind Json.Value.text?).getD "")

/-- The texts of a prop that holds a list, with their labels resolved. -/
def textsOf (props : Props) (key : String) : List String :=
  match (props.members.get? key).bind Json.Value.list? with
  | some values => values.filterMap (fun v => v.text?.map (substitute props.labels))
  | none => []

/-- The item of a given kind that the props spell out. -/
def item (props : Props) : ItemKind → Item
  | .paragraph => .paragraph (props.textOf "paragraph")
  | .skills => .skill (props.textOf "category") (props.textOf "content")
  | .entries =>
    .entry (props.textOf "title") (props.textOf "subtitle") (props.textOf "btag")
      (props.textOf "ttag") (props.textsOf "details")
  | .honors =>
    .honor (props.textOf "title") (props.textOf "subtitle") (props.textOf "ltag")
      (props.textOf "rtag")

/-- The item the props spell out, or all that is wrong with them. -/
def check (props : Props) : Except (List ItemProblem) Item :=
  match props.problems, props.kind? with
  | [], some kind => .ok (props.item kind)
  | problems, _ => .error problems

end Props

end Vitae
