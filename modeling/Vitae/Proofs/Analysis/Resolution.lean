import Vitae.Document.Analysis

/-!
# Resolving References

What a raw item stands for, said without a shelf. An item spelled out stands for
its own props; a reference stands for what its file holds under its id, and the
file is taken as loading finds it.

The analysis works with a shelf instead, which it hands on from item to item. A
shelf that only holds what loading would find again is `Faithful`, the empty one
is, and every use keeps it so. Along a whole analysis the shelf therefore never
shows in what an item turns out to be, only in how often files are loaded. That
is what allows the other arguments to look at one item at a time.

## Main definitions

* `RawItem.found`: The props a raw item stands for.
* `RawItem.analyzed`: The item a raw item stands for, on its own.
* `Shelf.Faithful`: What is on the shelf is what loading finds.

## Theorems

* `Props.ne_nil_of_check_eq_error`: Props are never refused without a reason.
* `Shelf.faithful_empty`: The empty shelf is faithful.
* `Shelf.obtain_of_faithful`: A faithful shelf answers as loading does.
* `Analysis.propsOf_of_faithful`: Resolving with a faithful shelf finds what the
  item stands for and keeps the shelf faithful.
-/

namespace Vitae

/-- The props a raw item stands for. -/
def RawItem.found (load : String → LoadedFile) : RawItem → Except ItemProblem Props
  | .inline props => .ok props
  | .reference text =>
    match Reference.parse? text with
    | none => .error (.malformedReference text)
    | some parts => Shelf.lookUp text parts (load parts.file)

/-- The item that props stand for, or all that is wrong with them. -/
def analyzedProps : Except ItemProblem Props → Except (List ItemProblem) Item
  | .ok props => props.check
  | .error problem => .error [problem]

/-- The item a raw item stands for on its own, whatever it will be filed under. -/
def RawItem.analyzed (load : String → LoadedFile) (raw : RawItem) :
    Except (List ItemProblem) Item :=
  analyzedProps (raw.found load)

/-- Props that are refused are refused for a reason. The kind is looked at last,
and where there is none this is a problem of its own. -/
theorem Props.ne_nil_of_check_eq_error {props : Props} {causes : List ItemProblem}
    (h : props.check = .error causes) : causes ≠ [] := by
  unfold check at h
  split at h
  · simp only [reduceCtorEq] at h
  · rename_i hnone
    rw [Except.error.injEq] at h
    rw [← h]
    intro hnil
    cases hkind : props.kind? with
    | some kind => exact hnone kind hnil hkind
    | none => simp [problems, hkind] at hnil

theorem ne_nil_of_analyzedProps_eq_error {found : Except ItemProblem Props}
    {causes : List ItemProblem} (h : analyzedProps found = .error causes) : causes ≠ [] := by
  cases found with
  | ok props => exact Props.ne_nil_of_check_eq_error h
  | error problem =>
      rw [analyzedProps, Except.error.injEq] at h
      rw [← h]
      exact List.cons_ne_nil _ _

namespace Shelf

/-- What is on the shelf is what loading finds. -/
def Faithful (load : String → LoadedFile) (shelf : Shelf) : Prop :=
  ∀ file loaded, shelf.files.lookup file = some loaded → loaded = load file

theorem faithful_empty (load : String → LoadedFile) : Faithful load empty := by
  intro file loaded h
  simp only [empty, List.lookup_nil, reduceCtorEq] at h

/-- A faithful shelf answers as loading does, and it stays faithful, whether the
file was there already or not. -/
theorem obtain_of_faithful (load : String → LoadedFile) (shelf : Shelf) (text file : String)
    (h : shelf.Faithful load) :
    (shelf.obtain load text file).1 = load file ∧
      (shelf.obtain load text file).2.Faithful load := by
  unfold obtain
  cases hfile : shelf.files.lookup file with
  | some loaded => exact ⟨h file loaded hfile, h⟩
  | none =>
      refine ⟨rfl, fun other loaded hother => ?_⟩
      -- Only the new file is found where the shelf had nothing.
      rw [List.lookup_append] at hother
      cases hold : shelf.files.lookup other with
      | some before =>
          rw [hold, Option.some_or, Option.some.injEq] at hother
          rw [← hother]
          exact h other before hold
      | none =>
          rw [hold, Option.none_or, List.lookup_cons, List.lookup_nil] at hother
          by_cases hname : other = file
          · simp only [hname, beq_self_eq_true, Option.some.injEq] at hother
            rw [← hother, hname]
          · simp only [beq_eq_false_iff_ne.mpr hname, reduceCtorEq] at hother

end Shelf

namespace Analysis

/-- Resolving with a faithful shelf finds what the item stands for and keeps the
shelf faithful. -/
theorem propsOf_of_faithful (load : String → LoadedFile) (shelf : Shelf) (raw : RawItem)
    (h : shelf.Faithful load) :
    (propsOf load shelf raw).1 = raw.found load ∧
      (propsOf load shelf raw).2.Faithful load := by
  cases raw with
  | inline props => exact ⟨rfl, h⟩
  | reference text =>
      simp only [propsOf, Shelf.resolve, RawItem.found]
      cases Reference.parse? text with
      | none => exact ⟨rfl, h⟩
      | some parts =>
          rcases Shelf.obtain_of_faithful load shelf text parts.file h with ⟨hfound, hshelf⟩
          exact ⟨congrArg (Shelf.lookUp text parts) hfound, hshelf⟩

end Analysis

end Vitae
