import Mathlib.Data.Set.List
import Vitae.Proofs.Analysis.Kinds
import Vitae.Proofs.Analysis.Resolution
import Vitae.Proofs.Json.Members
import Vitae.Proofs.Labels.Pieces

/-!
# Admission of an Item

When an item is accepted, and what it then says.

`Admissible` lists the conditions without mentioning the checks. The checks are passes of
their own that know nothing of each other, and the item is spelled out with defaults for
whatever is missing or holds the wrong thing. That no default is ever used follows from all
passes together: the kind that is found requires a prop, so the prop was counted as present;
it was counted, so it is not null and has the shape of its name; and the shape of a required
prop is a text.

Everything rests on `Typed`, that the props have the shapes of their names. It makes the
props that are counted the same as the ones that are given, and the labels that are listed
the same as the ones that are written.

## Main definitions

* `Shape.Holds`: A value has a shape.
* `Props.given`: The names of the props that are not null.
* `Props.Admissible`: The conditions on the props of an item.
* `Props.Spells`: The props say what is in an item.

## Theorems

* `Shape.fits_iff`: A value fits a shape exactly if it has it.
* `Props.problems_eq_nil_iff`: Nothing is wrong with admissible props only.
* `Props.gives_textOf`: A text that is given is not replaced by a default.
* `Props.spells_item`: The item of the kind that fits says what the props say.
* `Props.check_admissible`: Checking accepts the admissible props and loses nothing.
-/

namespace Vitae

/-- A label as it is written. -/
def Label.member (label : Label) : String × Json.Value :=
  (label.name, .text label.text)

/-- A text without a pair of braces. -/
def Unpaired (text : String) : Prop :=
  ¬openMark <:+: text.toList ∧ ¬closeMark <:+: text.toList

/-! ### Shapes -/

/-- A value has a shape. -/
inductive Shape.Holds : Shape → Json.Value → Prop where
  | text (text : String) : Holds .text (.text text)
  | texts (texts : List String) : Holds .texts (.list (texts.map .text))
  | textMap (labels : List Label) : Holds .textMap (.object (labels.map Label.member))

theorem Json.Value.isNull_iff (value : Json.Value) : value.isNull = true ↔ value = .null := by
  cases value <;> simp [isNull]

theorem Json.Value.isSome_text?_iff (value : Json.Value) :
    value.text?.isSome = true ↔ value ∈ Set.range Json.Value.text := by
  cases value <;> simp [text?]

theorem all_text?_iff (values : List Json.Value) :
    values.all (fun v => v.text?.isSome) = true ↔
      values ∈ Set.range (List.map Json.Value.text) := by
  rw [Set.range_list_map, List.all_eq_true]
  exact forall₂_congr fun value _ => value.isSome_text?_iff

theorem all_member_text?_iff (members : List (String × Json.Value)) :
    members.all (fun m => m.2.text?.isSome) = true ↔
      members ∈ Set.range (List.map Label.member) := by
  rw [Set.range_list_map, List.all_eq_true]
  refine forall₂_congr fun member _ => member.2.isSome_text?_iff.trans ⟨?_, ?_⟩
  · rintro ⟨text, htext⟩
    exact ⟨⟨member.1, text⟩, Prod.ext rfl htext⟩
  · rintro ⟨label, rfl⟩
    exact ⟨label.text, rfl⟩

/-- A value fits a shape exactly if it has it. -/
theorem Shape.fits_iff (shape : Shape) (value : Json.Value) :
    shape.fits value = true ↔ shape.Holds value := by
  constructor
  · intro hfits
    unfold fits at hfits
    split at hfits
    · exact .text _
    · obtain ⟨texts, rfl⟩ := (all_text?_iff _).mp hfits
      exact .texts texts
    · obtain ⟨labels, rfl⟩ := (all_member_text?_iff _).mp hfits
      exact .textMap labels
    · cases hfits
  · intro hholds
    cases hholds with
    | text text => rfl
    | texts texts => exact (all_text?_iff _).mpr ⟨texts, rfl⟩
    | textMap labels => exact (all_member_text?_iff _).mpr ⟨labels, rfl⟩

/-- Every prop that a kind requires is a text. -/
theorem ItemKind.shapeOf_required {kind : ItemKind} {key : String} (h : key ∈ kind.required) :
    shapeOf key = some .text := by
  revert key
  cases kind <;> decide

namespace Props

/-! ### Conditions -/

/-- The names of the props that are not null. -/
def given (props : Props) : List String :=
  (props.members.filter (fun member => !member.2.isNull)).map Prod.fst

/-- A prop is missing, or null. -/
def Lacks (props : Props) (key : String) : Prop :=
  props.members.get? key = none ∨ props.members.get? key = some .null

/-- A prop exists, and holds what it should unless it is null. -/
def Proper (member : String × Json.Value) : Prop :=
  ∃ shape, shapeOf member.1 = some shape ∧ (member.2 ≠ .null → shape.Holds member.2)

/-- The props have the shapes of their names. -/
def Typed (props : Props) : Prop :=
  ∀ member ∈ props.members, Proper member

/-- The labels that are written as the labels of an item, in order. -/
def Labelled (props : Props) (labels : List Label) : Prop :=
  props.Lacks labelsKey ∧ labels = [] ∨
    props.members.get? labelsKey = some (.object (labels.map Label.member))

/-- Of an object of labels, none is given twice and none has a pair of braces. -/
def Plain (props : Props) : Prop :=
  ∀ labels : List Label,
    props.members.get? labelsKey = some (.object (labels.map Label.member)) →
      props.repeatedLabels = [] ∧ ∀ label ∈ labels, Unpaired label.name ∧ Unpaired label.text

/-- The conditions on the props of an item. -/
structure Admissible (props : Props) : Prop where
  /-- No prop is given twice. -/
  once : props.repeatedKeys = []
  /-- Every prop exists, and holds what it should unless it is null. -/
  typed : props.Typed
  /-- Of an object of labels, none is given twice and none has a pair of braces. -/
  plain : props.Plain
  /-- The props that are not null are those of some kind. -/
  kind : ∃ kind : ItemKind, kind.Fits props.given

/-- A field is the text of a prop, with the labels resolved. -/
def Gives (props : Props) (labels : List Label) (key field : String) : Prop :=
  ∃ text, props.members.get? key = some (.text text) ∧ field = substitute labels text

/-- Fields are the texts of a prop, one by one, with the labels resolved. -/
def Lists (props : Props) (labels : List Label) (key : String) (fields : List String) : Prop :=
  props.Lacks key ∧ fields = [] ∨
    ∃ texts : List String, props.members.get? key = some (.list (texts.map .text)) ∧
      fields = texts.map (substitute labels)

/-- The props say what is in an item. -/
def Spells (props : Props) (labels : List Label) : Item → Prop
  | .paragraph text => props.Gives labels "paragraph" text
  | .skill category content =>
    props.Gives labels "category" category ∧ props.Gives labels "content" content
  | .entry title subtitle btag ttag details =>
    props.Gives labels "title" title ∧ props.Gives labels "subtitle" subtitle ∧
      props.Gives labels "btag" btag ∧ props.Gives labels "ttag" ttag ∧
      props.Lists labels "details" details
  | .honor title subtitle ltag rtag =>
    props.Gives labels "title" title ∧ props.Gives labels "subtitle" subtitle ∧
      props.Gives labels "ltag" ltag ∧ props.Gives labels "rtag" rtag

/-! ### Props with the shapes of their names -/

theorem memberProblems_eq_nil_iff (member : String × Json.Value) :
    memberProblems member = [] ↔ Proper member := by
  unfold memberProblems
  cases hshape : shapeOf member.1 with
  | none => simp [Proper, hshape]
  | some shape =>
      simp only [Proper, hshape, ite_eq_left_iff, Bool.or_eq_true, List.cons_ne_self,
        Json.Value.isNull_iff, shape.fits_iff, Option.some.injEq, exists_eq_left']
      tauto

variable {props : Props}

/-- A prop with the shape of its name is counted unless it is null. -/
theorem present_of_typed (h : props.Typed) : props.present = props.given := by
  unfold present given
  congr 1
  refine List.filter_congr fun member hmember => ?_
  obtain ⟨shape, hshape, hholds⟩ := h member hmember
  rw [counts, hshape]
  cases hnull : member.2.isNull with
  | true => rfl
  | false =>
      have hvalue : member.2 ≠ .null := by
        rw [Ne, ← Json.Value.isNull_iff, hnull]
        exact Bool.false_ne_true
      simp [(shape.fits_iff member.2).mpr (hholds hvalue)]

/-- A prop whose name has a shape is missing or has it. -/
theorem lacks_or_holds (h : props.Typed) {key : String} {shape : Shape}
    (hshape : shapeOf key = some shape) :
    props.Lacks key ∨ ∃ value, props.members.get? key = some value ∧ shape.Holds value := by
  cases hvalue : props.members.get? key with
  | none => exact .inl (.inl hvalue)
  | some value =>
      -- The value has the shape of its own key, which is the one that was asked for.
      obtain ⟨other, hother, hholds⟩ := h _ (Json.Members.mem_of_get? hvalue)
      obtain rfl : shape = other := by rwa [hshape, Option.some.injEq] at hother
      by_cases hnull : value = .null
      · exact .inl (.inr (hnull ▸ hvalue))
      · exact .inr ⟨value, rfl, hholds hnull⟩

/-- A prop that is given is not missing. -/
theorem not_lacks_of_mem_given {key : String} (h : key ∈ props.given) : ¬props.Lacks key := by
  obtain ⟨⟨name, value⟩, hmember, rfl⟩ := List.mem_map.mp h
  obtain ⟨hmember, hnull⟩ := List.mem_filter.mp hmember
  have hvalue := (Json.Members.get?_eq_some_iff props.ascending).mpr hmember
  rintro (hnone | hlacks)
  · rw [hvalue] at hnone
    cases hnone
  · rw [hvalue, Option.some.injEq] at hlacks
    simp [hlacks, Json.Value.isNull] at hnull

theorem bind_eq_none_of_lacks {β : Type} {read : Json.Value → Option β} {key : String}
    (h : props.Lacks key) (hnull : read .null = none) :
    (props.members.get? key).bind read = none := by
  rcases h with h | h
  · rw [h, Option.bind_none]
  · rw [h, Option.bind_some, hnull]

theorem shapeOf_labelsKey : shapeOf labelsKey = some .textMap := by
  decide

/-- Props with the shapes of their names have labels. -/
theorem exists_labelled (h : props.Typed) : ∃ labels, props.Labelled labels := by
  rcases lacks_or_holds h shapeOf_labelsKey with hlacks | ⟨value, hvalue, hholds⟩
  · exact ⟨[], .inl ⟨hlacks, rfl⟩⟩
  · cases hholds with
    | textMap labels => exact ⟨labels, .inr hvalue⟩

/-- The labels that are listed are the ones that are written. -/
theorem Labelled.labels_eq {labels : List Label} (h : props.Labelled labels) :
    props.labels = labels := by
  unfold Props.labels
  rcases h with ⟨hlacks, rfl⟩ | hgiven
  · rw [bind_eq_none_of_lacks hlacks rfl]
  · simp only [hgiven, Option.bind_some, Json.Value.object?, List.filterMap_map]
    exact List.filterMap_some

theorem labelProblems_eq_nil_iff (label : Label) :
    labelProblems label = [] ↔ Unpaired label.name ∧ Unpaired label.text := by
  simp [labelProblems, Unpaired, ← Labels.hasInvocation_eq_false_iff]

/-- Nothing is wrong with labels that are plain. -/
theorem labelsProblems_eq_nil_iff (h : props.Typed) :
    props.labelsProblems = [] ↔ props.Plain := by
  obtain ⟨labels, hlabels⟩ := exists_labelled h
  have hsame := hlabels.labels_eq
  rcases hlabels with ⟨hlacks, rfl⟩ | hgiven
  · -- Where no labels are written, nothing is looked at, not even recorded repeats.
    have hnone : (props.members.get? labelsKey).bind Json.Value.object? = none :=
      bind_eq_none_of_lacks hlacks rfl
    rw [labelsProblems, hnone]
    refine iff_of_true rfl fun labels hlabels => ?_
    rw [hlabels] at hnone
    cases hnone
  · have hproblems : props.labelsProblems = [] ↔ props.repeatedLabels = [] ∧
        ∀ label ∈ labels, Unpaired label.name ∧ Unpaired label.text := by
      simp only [labelsProblems, hgiven, Option.bind_some, Json.Value.object?, hsame,
        List.append_eq_nil_iff, List.map_eq_nil_iff, List.flatMap_eq_nil_iff,
        labelProblems_eq_nil_iff]
    rw [hproblems]
    refine ⟨fun hplain others hothers => ?_, fun hplain => hplain labels hgiven⟩
    rwa [← hsame, Labelled.labels_eq (.inr hothers)] at hplain

theorem kind?_eq_some_iff (h : props.Typed) (kind : ItemKind) :
    props.kind? = some kind ↔ kind.Fits props.given := by
  rw [kind?, classify_eq_some_iff, present_of_typed h]

/-- Nothing is wrong with admissible props only. -/
theorem problems_eq_nil_iff : props.problems = [] ↔ props.Admissible := by
  have htyped : props.members.flatMap memberProblems = [] ↔ props.Typed := by
    simp only [List.flatMap_eq_nil_iff, memberProblems_eq_nil_iff, Typed]
  have hkind : (if props.kind?.isNone then [ItemProblem.unknownKind props.present] else []) = [] ↔
      ∃ kind, props.kind? = some kind := by
    cases props.kind? <;> simp
  rw [problems, List.append_eq_nil_iff, List.append_eq_nil_iff, List.append_eq_nil_iff,
    List.map_eq_nil_iff, htyped, hkind]
  -- What the last two passes find says something of the props only because of the second.
  constructor
  · rintro ⟨⟨⟨honce, hprops⟩, hlabels⟩, kind, hfound⟩
    exact ⟨honce, hprops, (labelsProblems_eq_nil_iff hprops).mp hlabels, kind,
      (kind?_eq_some_iff hprops kind).mp hfound⟩
  · rintro ⟨honce, hprops, hplain, kind, hfits⟩
    exact ⟨⟨⟨honce, hprops⟩, (labelsProblems_eq_nil_iff hprops).mpr hplain⟩, kind,
      (kind?_eq_some_iff hprops kind).mpr hfits⟩

theorem check_eq_ok_iff (item : Item) :
    props.check = .ok item ↔
      props.problems = [] ∧ ∃ kind, props.kind? = some kind ∧ props.item kind = item := by
  unfold check
  split
  · rename_i kind hproblems hkind
    simp [hproblems, hkind]
  · rename_i hnone
    refine iff_of_false (fun h => by cases h) ?_
    rintro ⟨hproblems, kind, hkind, -⟩
    exact hnone kind hproblems hkind

/-! ### What an item says -/

/-- A text that is given is not replaced by a default. -/
theorem gives_textOf (h : props.Typed) {key : String} (hshape : shapeOf key = some .text)
    (hkey : key ∈ props.given) : props.Gives props.labels key (props.textOf key) := by
  obtain ⟨value, hvalue, hholds⟩ :=
    (lacks_or_holds h hshape).resolve_left (not_lacks_of_mem_given hkey)
  cases hholds with
  | text text =>
      refine ⟨text, hvalue, ?_⟩
      rw [textOf, hvalue, Option.bind_some, Json.Value.text?, Option.getD_some]

/-- No text of a list is left out. -/
theorem lists_textsOf (h : props.Typed) {key : String} (hshape : shapeOf key = some .texts) :
    props.Lists props.labels key (props.textsOf key) := by
  rcases lacks_or_holds h hshape with hlacks | ⟨value, hvalue, hholds⟩
  · refine .inl ⟨hlacks, ?_⟩
    rw [textsOf, bind_eq_none_of_lacks hlacks rfl]
  · cases hholds with
    | texts texts =>
        refine .inr ⟨texts, hvalue, ?_⟩
        simp only [textsOf, hvalue, Option.bind_some, Json.Value.list?, List.filterMap_map]
        rw [← List.filterMap_eq_map]
        rfl

/-- The item of the kind that fits says what the props say. -/
theorem spells_item (h : props.Typed) {kind : ItemKind} (hfits : kind.Fits props.given) :
    props.Spells props.labels (props.item kind) := by
  -- Whatever a kind requires is given, and is a text.
  have hgives : ∀ key ∈ kind.required, props.Gives props.labels key (props.textOf key) :=
    fun key hkey => gives_textOf h (ItemKind.shapeOf_required hkey) (hfits.complete key hkey)
  cases kind with
  | paragraph => exact hgives "paragraph" (by decide)
  | skills => exact ⟨hgives "category" (by decide), hgives "content" (by decide)⟩
  | entries =>
      exact ⟨hgives "title" (by decide), hgives "subtitle" (by decide),
        hgives "btag" (by decide), hgives "ttag" (by decide), lists_textsOf h (by decide)⟩
  | honors =>
      exact ⟨hgives "title" (by decide), hgives "subtitle" (by decide),
        hgives "ltag" (by decide), hgives "rtag" (by decide)⟩

theorem kind_item (kind : ItemKind) : (props.item kind).kind = kind := by
  cases kind <;> rfl

end Props

/-- Refused props are reported, each problem with the place of the item. -/
theorem Analysis.problems_takeItem_of_refused {props : Props} {causes : List ItemProblem}
    (h : props.check = .error causes) (document : Kind) (load : String → LoadedFile)
    (place : Location) (state : Analysis) :
    (takeItem document load place state (.inline props)).problems =
      state.problems ++ causes.map (.item place) := by
  simp only [takeItem, propsOf, accept, h]

/-- Checking accepts exactly the admissible props. The item is of the kind that the props
fit, and its fields are the texts of the props; where props are refused, something is
reported. -/
theorem Props.check_admissible (props : Props) :
    ((∃ item, props.check = .ok item) ↔ props.Admissible) ∧
      (∀ item, props.check = .ok item → item.kind.Fits props.given ∧
        ∃ labels, props.Labelled labels ∧ props.Spells labels item) ∧
      ∀ causes, props.check = .error causes → causes ≠ [] ∧
        ∀ (document : Kind) (load : String → LoadedFile) (place : Location) (state : Analysis),
          (Analysis.takeItem document load place state (.inline props)).problems =
            state.problems ++ causes.map (.item place) := by
  refine ⟨⟨?_, fun h => ?_⟩, fun item hitem => ?_, fun causes hcauses =>
    ⟨ne_nil_of_check_eq_error hcauses, Analysis.problems_takeItem_of_refused hcauses⟩⟩
  · rintro ⟨item, hitem⟩
    exact problems_eq_nil_iff.mp ((check_eq_ok_iff item).mp hitem).1
  · obtain ⟨kind, hfits⟩ := h.kind
    have hkind := (kind?_eq_some_iff h.typed kind).mpr hfits
    exact ⟨props.item kind,
      (check_eq_ok_iff _).mpr ⟨problems_eq_nil_iff.mpr h, kind, hkind, rfl⟩⟩
  · obtain ⟨hproblems, kind, hkind, rfl⟩ := (check_eq_ok_iff item).mp hitem
    have htyped := (problems_eq_nil_iff.mp hproblems).typed
    have hfits := (kind?_eq_some_iff htyped kind).mp hkind
    obtain ⟨labels, hlabels⟩ := exists_labelled htyped
    refine ⟨by rwa [kind_item], labels, hlabels, ?_⟩
    rw [← hlabels.labels_eq]
    exact spells_item htyped hfits

end Vitae
