import Vitae.Proofs.Analysis.Filing
import Vitae.Proofs.Analysis.Resolution

/-!
# The Walk over a Source

The analysis as a sequence of verdicts, one for each item in source order. What
the analysis keeps while it goes, the sections so far and the shelf, is replaced
here by the one thing about the past that a verdict can depend on: the kind of
the first item accepted under the same name.

`firstKind` says which kind that is without running anything. An item that would
be accepted if nothing had been filed yet is certainly accepted when it is the
first such item of its name, and whatever comes later must agree with it. So the
first accepted item is the first that is acceptable on its own, and items with
problems can be skipped in looking for it.

`Reached` ties the two views together. It is the invariant of the walk: the shelf
is faithful, and the kind of every section is the one `firstKind` names. One step
keeps it (`reached_take`), and with it one step does what the verdict says
(`problems_take`, `sections_take`); the statements about whole walks follow by
induction on the items that remain.

Sections without a name are the only part of a source that the walk passes over.
They always leave a problem (`named_of_problems_eq_nil`), so they matter only
where a source is refused.

## Main definitions

* `Placed`: A raw item and its place.
* `RawSection.placed`, `Source.placed`: The items of a source with their places.
* `verdict`: What becomes of an item.
* `itemProblems`: What is reported about an item.
* `Placed.kind?`: The kind of an item that is acceptable on its own.
* `firstKind`: The kind of the first item accepted under a name.
* `problemsFrom`, `keptFrom`: The problems and the accepted items of a walk.
* `Analysis.Reached`: The invariant of the walk.

## Theorems

* `Analysis.accept_eq_verdict`: Accepting an item is passing a verdict on it.
* `Analysis.problems_take`, `Analysis.sections_take`, `Analysis.reached_take`:
  One step of the walk.
* `Analysis.problems_foldl_take`, `Analysis.sections_foldl_take`: A whole walk.
* `Analysis.run_of_named`: Analyzing a source is walking over its items.
* `Analysis.named_of_problems_eq_nil`: Without problems, every section has a
  name.
-/

namespace Vitae

/-- A raw item and its place. -/
structure Placed where
  place : Location
  raw : RawItem

/-- The name an item is filed under. -/
def Placed.name (item : Placed) : String := item.place.sectionName

/-- The items of a section with their places, counting from one. -/
def RawSection.placed (s : RawSection) : List Placed :=
  s.items.mapIdx (fun i raw => ⟨⟨i + 1, s.name⟩, raw⟩)

/-- The items of a source with their places, in order. -/
def Source.placed (source : Source) : List Placed :=
  source.sections.flatMap RawSection.placed

/-- What becomes of an item that is to be filed under a name, given the kind of
the first item accepted under that name and what the item stands for. -/
def verdict (document : Kind) (name : String) (earlier : Option ItemKind)
    (found : Except ItemProblem Props) : Except (List ItemProblem) Item :=
  match analyzedProps found with
  | .error causes => .error causes
  | .ok item =>
    if document = .coverLetter ∧ item.kind ≠ .paragraph then .error [.notAParagraph item.kind]
    else
      match earlier with
      | some kind =>
        if kind = item.kind then .ok item else .error [.mixedKinds item.kind name kind]
      | none => .ok item

/-- What is reported about an item. -/
def itemProblems (document : Kind) (place : Location) (earlier : Option ItemKind)
    (found : Except ItemProblem Props) : List Problem :=
  match verdict document place.sectionName earlier found with
  | .ok _ => []
  | .error causes => causes.map (.item place)

/-- The kind of an item that would be accepted as the first of its section. -/
def Placed.kind? (document : Kind) (load : String → LoadedFile) (item : Placed) :
    Option ItemKind :=
  match verdict document item.name none (item.raw.found load) with
  | .ok accepted => some accepted.kind
  | .error _ => none

/-- The kind of the first item accepted under a name. -/
def firstKind (document : Kind) (load : String → LoadedFile) (before : List Placed)
    (name : String) : Option ItemKind :=
  before.findSome? (fun item => if item.name = name then item.kind? document load else none)

/-- What is reported about the items of a list, in order, given the items in
front of the list. -/
def problemsFrom (document : Kind) (load : String → LoadedFile) (before : List Placed) :
    List Placed → List Problem
  | [] => []
  | item :: rest =>
    itemProblems document item.place (firstKind document load before item.name)
        (item.raw.found load) ++
      problemsFrom document load (before ++ [item]) rest

/-- The accepted items of a list with the names they are filed under, given the
items in front of the list. -/
def keptFrom (document : Kind) (load : String → LoadedFile) (before : List Placed) :
    List Placed → List (String × Item)
  | [] => []
  | item :: rest =>
    match verdict document item.name (firstKind document load before item.name)
        (item.raw.found load) with
    | .ok accepted => (item.name, accepted) :: keptFrom document load (before ++ [item]) rest
    | .error _ => keptFrom document load (before ++ [item]) rest

/-- An earlier item can only add a reason to refuse. -/
theorem verdict_eq_ok_iff (document : Kind) (name : String) (earlier : Option ItemKind)
    (found : Except ItemProblem Props) (item : Item) :
    verdict document name earlier found = .ok item ↔
      analyzedProps found = .ok item ∧ (document = .coverLetter → item.kind = .paragraph) ∧
        ∀ kind, earlier = some kind → kind = item.kind := by
  unfold verdict
  cases analyzedProps found with
  | error causes => simp
  | ok other =>
      by_cases hletter : document = .coverLetter ∧ other.kind ≠ .paragraph
      · simp only [if_pos hletter, reduceCtorEq, Except.ok.injEq, false_iff, not_and]
        intro he hpar
        exact absurd (he ▸ hpar hletter.1) hletter.2
      · have hpar : document = .coverLetter → other.kind = .paragraph :=
          fun hd => Decidable.of_not_not (fun hne => hletter ⟨hd, hne⟩)
        simp only [if_neg hletter]
        cases earlier with
        | none =>
            simp only [Except.ok.injEq, reduceCtorEq, false_implies, implies_true, and_true]
            exact ⟨fun he => ⟨he, he ▸ hpar⟩, fun h => h.1⟩
        | some kind =>
            by_cases hk : kind = other.kind
            · simp only [if_pos hk, Except.ok.injEq, Option.some.injEq, forall_eq']
              exact ⟨fun he => ⟨he, he ▸ hpar, he ▸ hk⟩, fun h => h.1⟩
            · simp only [if_neg hk, reduceCtorEq, Except.ok.injEq, Option.some.injEq,
                forall_eq', false_iff, not_and]
              exact fun he _ hkind => hk (he ▸ hkind)

theorem ne_nil_of_verdict_eq_error {document : Kind} {name : String}
    {earlier : Option ItemKind} {found : Except ItemProblem Props} {causes : List ItemProblem}
    (h : verdict document name earlier found = .error causes) : causes ≠ [] := by
  unfold verdict at h
  split at h
  · rename_i hfound
    rw [Except.error.injEq] at h
    exact h ▸ ne_nil_of_analyzedProps_eq_error hfound
  · -- An item that is fine on its own is refused for a single reason.
    split at h
    · rw [Except.error.injEq] at h
      exact h ▸ List.cons_ne_nil _ _
    · split at h
      · split at h
        · simp only [reduceCtorEq] at h
        · rw [Except.error.injEq] at h
          exact h ▸ List.cons_ne_nil _ _
      · simp only [reduceCtorEq] at h

/-- Nothing is reported about an item exactly when it is accepted. -/
theorem itemProblems_eq_nil_iff (document : Kind) (place : Location) (earlier : Option ItemKind)
    (found : Except ItemProblem Props) :
    itemProblems document place earlier found = [] ↔
      ∃ item, verdict document place.sectionName earlier found = .ok item := by
  unfold itemProblems
  cases hverdict : verdict document place.sectionName earlier found with
  | ok item => exact ⟨fun _ => ⟨item, rfl⟩, fun _ => rfl⟩
  | error causes =>
      simp only [List.map_eq_nil_iff, reduceCtorEq, exists_false, iff_false]
      exact ne_nil_of_verdict_eq_error hverdict

theorem firstKind_append (document : Kind) (load : String → LoadedFile)
    (before after : List Placed) (name : String) :
    firstKind document load (before ++ after) name =
      (firstKind document load before name).or (firstKind document load after name) := by
  simp only [firstKind, List.findSome?_append]

/-- What one more item does to the kinds. A refused item leaves them alone: it
would not have been accepted as the first, or it was not the first. -/
theorem firstKind_concat (document : Kind) (load : String → LoadedFile)
    (before : List Placed) (item : Placed) (name : String) :
    firstKind document load (before ++ [item]) name =
      match verdict document item.name (firstKind document load before item.name)
          (item.raw.found load) with
      | .ok accepted =>
        (firstKind document load before name).or
          (if item.name = name then some accepted.kind else none)
      | .error _ => firstKind document load before name := by
  rw [firstKind_append]
  have hone : firstKind document load [item] name =
      if item.name = name then item.kind? document load else none := by
    simp only [firstKind, List.findSome?_cons, List.findSome?_nil]
    split <;> simp_all
  rw [hone]
  cases hverdict : verdict document item.name (firstKind document load before item.name)
      (item.raw.found load) with
  | ok accepted =>
      -- Accepted in its place, the item would also be accepted as the first.
      rcases (verdict_eq_ok_iff ..).mp hverdict with ⟨hitem, hletter, _⟩
      have hown : verdict document item.name none (item.raw.found load) = .ok accepted :=
        (verdict_eq_ok_iff ..).mpr ⟨hitem, hletter, fun _ h => nomatch h⟩
      simp only [Placed.kind?, hown]
  | error causes =>
      by_cases hname : item.name = name
      · cases hfirst : firstKind document load before name with
        | some kind => rw [Option.some_or]
        | none =>
            rw [hname, hfirst, ← hname] at hverdict
            simp only [Placed.kind?, hverdict, if_pos hname, Option.or_none]
      · rw [if_neg hname, Option.or_none]

namespace Analysis

/-- One step of the walk. -/
def take (document : Kind) (load : String → LoadedFile) (state : Analysis) (item : Placed) :
    Analysis :=
  takeItem document load item.place state item.raw

/-- What the walk knows after some items. -/
structure Reached (document : Kind) (load : String → LoadedFile) (before : List Placed)
    (state : Analysis) : Prop where
  shelf : state.shelf.Faithful load
  kinds : ∀ name, kindOf state.sections name = firstKind document load before name

theorem reached_start (document : Kind) (load : String → LoadedFile) :
    Reached document load [] start :=
  ⟨Shelf.faithful_empty load, fun _ => rfl⟩

/-- Accepting an item is passing a verdict on it. -/
theorem accept_eq_verdict (document : Kind) (sections : List Section) (name : String)
    (found : Except ItemProblem Props) :
    accept document sections name found =
      verdict document name (kindOf sections name) found := by
  unfold accept verdict
  cases found with
  | error problem => rfl
  | ok props =>
      simp only [analyzedProps]
      cases props.check with
      | error causes => rfl
      | ok item =>
          simp only [refusal]
          by_cases hletter : document = .coverLetter ∧ item.kind ≠ .paragraph
          · simp only [if_pos hletter]
          · simp only [if_neg hletter]
            cases kindOf sections name with
            | none => rfl
            | some kind =>
                by_cases hk : kind = item.kind
                · simp only [if_pos hk]
                · simp only [if_neg hk]

section Step

variable {document : Kind} {load : String → LoadedFile} {before : List Placed}
  {state : Analysis}

theorem take_eq (h : Reached document load before state) (item : Placed) :
    take document load state item =
      match verdict document item.name (firstKind document load before item.name)
          (item.raw.found load) with
      | .ok accepted =>
        { state with
          sections := file item.name accepted state.sections
          shelf := (propsOf load state.shelf item.raw).2 }
      | .error causes =>
        { state with
          problems := state.problems ++ causes.map (.item item.place)
          shelf := (propsOf load state.shelf item.raw).2 } := by
  have hfound := (propsOf_of_faithful load state.shelf item.raw h.shelf).1
  have haccept : accept document state.sections item.place.sectionName
      (propsOf load state.shelf item.raw).1 =
      verdict document item.name (firstKind document load before item.name)
        (item.raw.found load) := by
    rw [accept_eq_verdict, hfound, h.kinds]
    rfl
  cases hverdict : verdict document item.name (firstKind document load before item.name)
      (item.raw.found load) with
  | ok accepted =>
      rw [hverdict] at haccept
      simp only [take, takeItem, haccept, Placed.name]
  | error causes =>
      rw [hverdict] at haccept
      simp only [take, takeItem, haccept]

theorem problems_take (h : Reached document load before state) (item : Placed) :
    (take document load state item).problems =
      state.problems ++ itemProblems document item.place
        (firstKind document load before item.name) (item.raw.found load) := by
  rw [take_eq h item]
  unfold itemProblems
  simp only [Placed.name]
  split <;> simp_all

theorem sections_take (h : Reached document load before state) (item : Placed) :
    (take document load state item).sections =
      match verdict document item.name (firstKind document load before item.name)
          (item.raw.found load) with
      | .ok accepted => file item.name accepted state.sections
      | .error _ => state.sections := by
  rw [take_eq h item]
  split <;> rfl

theorem reached_take (h : Reached document load before state) (item : Placed) :
    Reached document load (before ++ [item]) (take document load state item) := by
  constructor
  · rw [take_eq h item]
    split <;> exact (propsOf_of_faithful load state.shelf item.raw h.shelf).2
  · intro name
    rw [sections_take h item, firstKind_concat]
    split
    · rw [kindOf_file, h.kinds]
    · exact h.kinds name

theorem problems_foldl_take (items : List Placed) (h : Reached document load before state) :
    (items.foldl (take document load) state).problems =
      state.problems ++ problemsFrom document load before items := by
  induction items generalizing before state with
  | nil => simp only [List.foldl_nil, problemsFrom, List.append_nil]
  | cons item rest ih =>
      rw [List.foldl_cons, ih (reached_take h item), problems_take h item, problemsFrom,
        List.append_assoc]

theorem sections_foldl_take (items : List Placed) (h : Reached document load before state) :
    (items.foldl (take document load) state).sections =
      (keptFrom document load before items).foldl
        (fun sections one => file one.1 one.2 sections) state.sections := by
  induction items generalizing before state with
  | nil => rfl
  | cons item rest ih =>
      rw [List.foldl_cons, ih (reached_take h item), sections_take h item, keptFrom]
      split <;> rfl

end Step

/-- The items of a section, taken one after the other. -/
theorem takeItems_eq_foldl (document : Kind) (load : String → LoadedFile) (name : String)
    (items : List RawItem) (number : Nat) (state : Analysis) :
    takeItems document load name number items state =
      (items.mapIdx (fun i raw => (⟨⟨number + i, name⟩, raw⟩ : Placed))).foldl
        (take document load) state := by
  induction items generalizing number state with
  | nil => rfl
  | cons raw rest ih =>
      rw [takeItems, ih, List.mapIdx_cons, List.foldl_cons]
      simp only [take, Nat.add_zero, Nat.add_assoc, Nat.add_comm 1]

theorem takeSections_eq_foldl (document : Kind) (load : String → LoadedFile)
    (sections : List RawSection) (number : Nat) (state : Analysis)
    (hnamed : ∀ s ∈ sections, Text.isBlank s.name = false) :
    takeSections document load number sections state =
      (sections.flatMap RawSection.placed).foldl (take document load) state := by
  induction sections generalizing number state with
  | nil => rfl
  | cons s rest ih =>
      have hs := hnamed s List.mem_cons_self
      rw [takeSections, ih _ _ (fun t ht => hnamed t (List.mem_cons_of_mem _ ht)), takeSection,
        hs, takeItems_eq_foldl, List.flatMap_cons, List.foldl_append]
      simp only [Bool.false_eq_true, if_false, RawSection.placed, Nat.add_comm 1]

/-- Analyzing a source is walking over its items. -/
theorem run_of_named (document : Kind) (load : String → LoadedFile) (source : Source)
    (hnamed : ∀ s ∈ source.sections, Text.isBlank s.name = false) :
    (run document load source).problems = problemsFrom document load [] source.placed ∧
      (run document load source).sections = filed (keptFrom document load [] source.placed) := by
  have hstart := reached_start document load
  rw [run, takeSections_eq_foldl _ _ _ _ _ hnamed]
  exact ⟨problems_foldl_take _ hstart, sections_foldl_take _ hstart⟩

/-- Problems stay once they are found. -/
theorem problems_of_takeItems {document : Kind} {load : String → LoadedFile} {name : String}
    {number : Nat} {items : List RawItem} {state : Analysis}
    (h : (takeItems document load name number items state).problems = []) :
    state.problems = [] := by
  induction items generalizing number state with
  | nil => exact h
  | cons raw rest ih =>
      have hstep := ih h
      unfold takeItem at hstep
      simp only at hstep
      split at hstep
      · exact hstep
      · exact (List.append_eq_nil_iff.mp hstep).1

/-- Without problems, every section has a name. -/
theorem named_of_problems_eq_nil {document : Kind} {load : String → LoadedFile}
    {sections : List RawSection} {number : Nat} {state : Analysis}
    (h : (takeSections document load number sections state).problems = []) :
    state.problems = [] ∧ ∀ s ∈ sections, Text.isBlank s.name = false := by
  induction sections generalizing number state with
  | nil => exact ⟨h, fun _ hs => absurd hs List.not_mem_nil⟩
  | cons s rest ih =>
      rcases ih h with ⟨hstep, hrest⟩
      unfold takeSection at hstep
      by_cases hs : Text.isBlank s.name = true
      · rw [if_pos hs] at hstep
        exact absurd (List.append_eq_nil_iff.mp hstep).2 (List.cons_ne_nil _ _)
      · rw [if_neg hs] at hstep
        refine ⟨problems_of_takeItems hstep, fun t ht => ?_⟩
        rcases List.mem_cons.mp ht with rfl | ht
        · exact eq_false_of_ne_true hs
        · exact hrest t ht

end Analysis

end Vitae
