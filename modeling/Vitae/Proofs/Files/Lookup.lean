import Mathlib.Data.List.DropRight
import Mathlib.Tactic.SplitIfs
import Vitae.Files.Store

/-!
# Looking Up Paths

Where a path leads depends on the folders on its way and on nothing else, apart from
its last name. So a path that leads to a folder keeps leading there as long as folders
stay folders (`locate_of_keepsFolders`), and whatever is put at the place that is meant
for a new entry is found there afterwards (`Leads.locate`).

## Main definitions

* `Store.KeepsFolders`: A store in which all folders of another one remain.
* `Store.IsName`: The name of an entry.
* `Store.Leads`: What it means that a new entry can go somewhere.

## Theorems

* `Store.bind_eq_ok`: Operations that succeed succeed step by step.
* `Store.folder_of_walk`: Nothing is reached but from a folder.
* `Store.walk_of_keepsFolders`: The way to a folder stays open.
* `Store.walk_append`, `Store.walk_split`: A way in two parts.
* `Store.leads_of_slot`: What is known of a slot with a place.
* `Store.Leads.locate`: An entry that has been made can be found.
-/

namespace Vitae

namespace Store

variable {before after : Store}

/-- What succeeds has succeeded in its first step and in the rest. -/
theorem bind_eq_ok {α β : Type} {x : Except Refusal α} {f : α → Except Refusal β} {r : β} :
    x >>= f = .ok r ↔ ∃ a, x = .ok a ∧ f a = .ok r := by
  cases x with
  | error refusal =>
    constructor
    · intro h
      cases h
    · rintro ⟨_, h, _⟩
      cases h
  | ok a =>
    constructor
    · exact fun h => ⟨a, rfl, h⟩
    · rintro ⟨_, h, hf⟩
      cases h
      exact hf

/-- A store in which every folder of another one is still a folder. -/
def KeepsFolders (before after : Store) : Prop :=
  ∀ place, before.node? place = some .folder → after.node? place = some .folder

theorem keepsFolders_put {store : Store} {place : Place} (h : store.node? place ≠ some .folder)
    (node : Node) : KeepsFolders store (store.put place node) := by
  intro other hother
  have hne : other ≠ place := by
    rintro rfl
    exact h hother
  rw [node?_put_of_ne store hne, hother]

/-- The name of an entry, as opposed to a step that stays or goes up. -/
structure IsName (segment : Bytes) : Prop where
  ne_nil : segment.isEmpty = false
  ne_dot : (segment == Path.dot) = false
  ne_dotDot : (segment == Path.dotDot) = false
  length_le : ¬longestName < segment.length

theorem walk_cons {store : Store} {here : Place} (h : store.node? here = some .folder)
    (segment : Bytes) (rest : List Bytes) :
    store.walk here (segment :: rest) =
      if segment.isEmpty || segment == Path.dot then store.walk here rest
      else if segment == Path.dotDot then store.walk here.dropLast rest
      else if longestName < segment.length then .error .nameTooLong
      else
        match store.node? (here ++ [segment]) with
        | none => .error .notThere
        | some _ => store.walk (here ++ [segment]) rest := by
  cases hnode : store.node? (here ++ [segment]) <;> simp only [walk, h, hnode]

theorem folder_of_walk_cons {store : Store} {here place : Place} {segment : Bytes}
    {rest : List Bytes} (h : store.walk here (segment :: rest) = .ok place) :
    store.node? here = some .folder := by
  unfold walk at h
  split at h
  · cases h
  · assumption
  · cases h

/-- Nothing is reached but from a folder. -/
theorem folder_of_walk {store : Store} {here place : Place} {segments : List Bytes}
    (h : store.walk here segments = .ok place) (hplace : store.node? place = some .folder) :
    store.node? here = some .folder := by
  cases segments with
  | nil =>
    rw [walk, Except.ok.injEq] at h
    rw [h, hplace]
  | cons segment rest => exact folder_of_walk_cons h

/-- The way to a folder goes through folders, so it stays open while they stay. -/
theorem walk_of_keepsFolders (hkeep : KeepsFolders before after) {here place : Place}
    {segments : List Bytes} (h : before.walk here segments = .ok place)
    (hplace : before.node? place = some .folder) : after.walk here segments = .ok place := by
  induction segments generalizing here with
  | nil => exact h
  | cons segment rest ih =>
    have hhere := folder_of_walk_cons h
    rw [walk_cons hhere] at h
    rw [walk_cons (hkeep here hhere)]
    split_ifs at h ⊢
    · exact ih h
    · exact ih h
    · -- What is entered next is a folder, and it is still there.
      split at h
      · cases h
      · rw [hkeep _ (folder_of_walk h hplace)]
        exact ih h

/-- A way goes on where its first part has led. -/
theorem walk_append_eq (store : Store) (here : Place) (xs ys : List Bytes) :
    store.walk here (xs ++ ys) = store.walk here xs >>= fun middle => store.walk middle ys := by
  induction xs generalizing here with
  | nil => rfl
  | cons segment rest ih =>
    rw [List.cons_append, walk, walk]
    cases store.node? here with
    | none => rfl
    | some node =>
      cases node with
      | file contents => rfl
      | device => rfl
      | folder =>
        simp only
        split_ifs
        · exact ih here
        · exact ih here.dropLast
        · rfl
        · cases store.node? (here ++ [segment]) with
          | none => rfl
          | some next => exact ih (here ++ [segment])

theorem walk_append {store : Store} {here place : Place} {xs : List Bytes}
    (h : store.walk here xs = .ok place) (ys : List Bytes) :
    store.walk here (xs ++ ys) = store.walk place ys := by
  rw [walk_append_eq, h]
  rfl

theorem walk_split {store : Store} {here place : Place} {xs ys : List Bytes}
    (h : store.walk here (xs ++ ys) = .ok place) :
    ∃ middle, store.walk here xs = .ok middle ∧ store.walk middle ys = .ok place := by
  rw [walk_append_eq] at h
  exact bind_eq_ok.mp h

theorem walk_name {store : Store} {folder : Place} {name : Bytes} {node : Node} (hname : IsName name)
    (hfolder : store.node? folder = some .folder) (hnode : store.node? (folder ++ [name]) = some node) :
    store.walk folder [name] = .ok (folder ++ [name]) := by
  rw [walk_cons hfolder, if_neg, if_neg, if_neg hname.length_le, hnode]
  · rfl
  · rw [hname.ne_dotDot]
    exact Bool.false_ne_true
  · rw [hname.ne_nil, hname.ne_dot]
    exact Bool.false_ne_true

/-- From a folder, stretches that stand for nothing lead nowhere else. -/
theorem walk_idle {store : Store} {place : Place} (hplace : store.node? place = some .folder)
    {idle : List Bytes}
    (h : ∀ segment ∈ idle, (segment.isEmpty || segment == Path.dot) = true) :
    store.walk place idle = .ok place := by
  induction idle with
  | nil => rfl
  | cons segment rest ih =>
    rw [walk_cons hplace, if_pos (h segment List.mem_cons_self)]
    exact ih fun other hother => h other (List.mem_cons_of_mem _ hother)

/-- What it means that a new entry can go somewhere: its folder is there, and the path
names the entry behind the way to the folder. -/
structure Leads (store : Store) (path : Path) (slot : Slot) (name : Bytes) (way idle : List Bytes) :
    Prop where
  wellFormed : wellFormed path = .ok ()
  folder : store.node? slot.folder = some .folder
  isName : IsName name
  segments : Path.segments path.bytes = way ++ name :: idle
  walk : store.walk (store.origin path) way = .ok slot.folder
  isEmpty : ∀ segment ∈ idle, segment.isEmpty = true
  slashed : slot.slashed = false → idle = []

theorem exists_idle (segments : List Bytes) :
    ∃ idle, segments = (segments.reverse.dropWhile List.isEmpty).reverse ++ idle ∧
      ∀ segment ∈ idle, segment.isEmpty = true :=
  ⟨segments.rtakeWhile List.isEmpty, List.rdropWhile_append_rtakeWhile.symm,
    fun _ hsegment => List.mem_rtakeWhile_imp hsegment⟩

/-- What is left when empty stretches at the end are cut off does not end in one. -/
theorem isEmpty_of_getLast?_kept {segments : List Bytes} {last : Bytes}
    (h : (segments.reverse.dropWhile List.isEmpty).reverse.getLast? = some last) :
    last.isEmpty = false := by
  rw [List.getLast?_reverse] at h
  have hnot := List.head?_dropWhile_not List.isEmpty segments.reverse
  rw [h] at hnot
  exact hnot

/-- A slot with a place has a name in a folder that is there. -/
theorem leads_of_slot {store : Store} {path : Path} {slot : Slot} {place : Place}
    (h : store.slot path = .ok slot) (hplace : slot.place? = some place) :
    ∃ name way idle, place = slot.folder ++ [name] ∧ Leads store path slot name way idle := by
  obtain ⟨name, hname, rfl⟩ := Option.map_eq_some_iff.mp hplace
  obtain ⟨idle, hsegments, hidle⟩ := exists_idle (Path.segments path.bytes)
  have hlast := @isEmpty_of_getLast?_kept (Path.segments path.bytes)
  generalize hkept : ((Path.segments path.bytes).reverse.dropWhile List.isEmpty).reverse = kept
    at hsegments hlast
  obtain ⟨_, hformed, h⟩ := bind_eq_ok.mp h
  simp only [hkept] at h
  cases hget : kept.getLast? with
  | none =>
    rw [hget] at h
    cases h
    cases hname
  | some last =>
    obtain ⟨way, rfl⟩ := List.getLast?_eq_some_iff.mp hget
    simp only [hget, List.dropLast_concat] at h
    obtain ⟨folder, hwalk, h⟩ := bind_eq_ok.mp h
    split at h
    · rename_i hfolder
      split_ifs at h with hstep hlong
      · cases h
        cases hname
      · cases h
        cases hname
        rw [Bool.or_eq_true, not_or, Bool.not_eq_true, Bool.not_eq_true] at hstep
        refine ⟨name, way, idle, rfl, hformed, hfolder, ⟨hlast hget, hstep.1, hstep.2, hlong⟩, ?_,
          hwalk, hidle, fun hslashed => ?_⟩
        · rw [hsegments, List.append_assoc]
          rfl
        · -- Without a slash at the end nothing has been cut off.
          have hlength := of_decide_eq_false hslashed
          simp only [hsegments, List.length_append] at hlength
          exact List.eq_nil_of_length_eq_zero (by omega)
    · cases h
    · cases h

/-- An entry that has been made can be found, as long as its path means a folder only
if it is one. -/
theorem Leads.locate {path : Path} {slot : Slot} {name : Bytes} {way idle : List Bytes}
    (h : Leads before path slot name way idle) (hkeep : KeepsFolders before after)
    (hstart : after.start = before.start) {node : Node}
    (hnode : after.node? (slot.folder ++ [name]) = some node)
    (hidle : idle = [] ∨ node = .folder) : after.locate path = .ok (slot.folder ++ [name]) := by
  have horigin : after.origin path = before.origin path := by
    rw [origin, origin, hstart]
  have hway : after.walk (after.origin path) way = .ok slot.folder := by
    rw [horigin]
    exact walk_of_keepsFolders hkeep h.walk h.folder
  have hname : after.walk slot.folder [name] = .ok (slot.folder ++ [name]) :=
    walk_name h.isName (hkeep _ h.folder) hnode
  have hrest : after.walk (slot.folder ++ [name]) idle = .ok (slot.folder ++ [name]) := by
    rcases hidle with rfl | rfl
    · rfl
    · exact walk_idle hnode fun segment hsegment => by rw [h.isEmpty segment hsegment, Bool.true_or]
  have hsplit : Path.segments path.bytes = way ++ ([name] ++ idle) := h.segments
  refine bind_eq_ok.mpr ⟨(), h.wellFormed, ?_⟩
  rw [hsplit, walk_append hway, walk_append hname, hrest]

/-- A folder that can be found can still be found while the folders stay. -/
theorem locate_of_keepsFolders (hkeep : KeepsFolders before after)
    (hstart : after.start = before.start) {path : Path} {place : Place}
    (h : before.locate path = .ok place) (hplace : before.node? place = some .folder) :
    after.locate path = .ok place := by
  have horigin : after.origin path = before.origin path := by
    rw [origin, origin, hstart]
  obtain ⟨_, hformed, hwalk⟩ := bind_eq_ok.mp h
  refine bind_eq_ok.mpr ⟨_, hformed, ?_⟩
  rw [horigin]
  exact walk_of_keepsFolders hkeep hwalk hplace

end Store

end Vitae
