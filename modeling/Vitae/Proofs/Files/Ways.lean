import Vitae.Document.Loading
import Vitae.Proofs.Files.Replace

/-!
# What Lies on the Way

Where a path leads, if it leads anywhere, can be told from the path alone, and so can the
places that looking it up comes by. A change to the files elsewhere does not show when the
path is looked up (`locate_congr`), and two states of the files in which a path leads to the
same with the same there cannot be told apart by reading it (`SameView`).

A file that is put in place lies on the way of a path at most as its end: nothing is looked
up behind a file. So a path with another end leads where it did (`locate_of_putAt`). Items
are kept in files of a name of their own kind, which no document has, and are found as before
(`loadItems_of_putAt`).

## Main definitions

* `Store.reach`, `Store.along`: Where segments lead, and the places on the way.
* `Store.placeOf`, `Store.wayOf`: The same of a path.
* `Store.SameView`: Two states of the files that look the same from a path.

## Theorems

* `Store.placeOf_of_locate`: A path leads to its place, if anywhere.
* `Store.walk_congr`, `Store.locate_congr`: A change elsewhere does not show.
* `Store.locate_of_putAt`: A path leads where it did before a file was put in place.
* `Store.loadItems_of_putAt`: Items are found as before.
-/

namespace Vitae

namespace Store

variable {before after store : Store} {path : Path} {place : Place}

/-- The place that segments lead to, if everything on the way is there. -/
def reach (here : Place) : List Bytes → Place
  | [] => here
  | segment :: rest =>
    if segment.isEmpty || segment == Path.dot then reach here rest
    else if segment == Path.dotDot then reach here.dropLast rest
    else reach (here ++ [segment]) rest

/-- The places on the way, with both ends. -/
def along (here : Place) : List Bytes → List Place
  | [] => [here]
  | segment :: rest =>
    here ::
      (if segment.isEmpty || segment == Path.dot then along here rest
      else if segment == Path.dotDot then along here.dropLast rest
      else along (here ++ [segment]) rest)

/-- The place that a path leads to, if everything on the way is there. -/
def placeOf (store : Store) (path : Path) : Place :=
  reach (store.origin path) (Path.segments path.bytes)

/-- The places on the way of a path. -/
def wayOf (store : Store) (path : Path) : List Place :=
  along (store.origin path) (Path.segments path.bytes)

theorem reach_of_walk {here : Place} {segments : List Bytes}
    (h : store.walk here segments = .ok place) : reach here segments = place := by
  induction segments generalizing here with
  | nil =>
    cases h
    rfl
  | cons segment rest ih =>
    rw [walk_cons (folder_of_walk_cons h)] at h
    unfold reach
    split_ifs at h ⊢
    · exact ih h
    · exact ih h
    · split at h
      · cases h
      · exact ih h

theorem placeOf_of_locate (h : store.locate path = .ok place) : store.placeOf path = place := by
  obtain ⟨_, -, hwalk⟩ := bind_eq_ok.mp h
  exact reach_of_walk hwalk

theorem reach_append (here : Place) (xs ys : List Bytes) :
    reach here (xs ++ ys) = reach (reach here xs) ys := by
  induction xs generalizing here with
  | nil => rfl
  | cons segment rest ih =>
    rw [List.cons_append, reach, reach]
    split_ifs <;> exact ih _

theorem mem_along_self (here : Place) (segments : List Bytes) : here ∈ along here segments := by
  cases segments <;> exact List.mem_cons_self

theorem reach_mem_along (here : Place) (segments : List Bytes) :
    reach here segments ∈ along here segments := by
  induction segments generalizing here with
  | nil => exact List.mem_cons_self
  | cons segment rest ih =>
    unfold reach along
    refine List.mem_cons_of_mem here ?_
    split_ifs <;> exact ih _

/-- Segments lead where they did if nothing on the way has changed. -/
theorem walk_congr {here : Place} {segments : List Bytes}
    (h : ∀ place ∈ along here segments, after.node? place = before.node? place) :
    after.walk here segments = before.walk here segments := by
  induction segments generalizing here with
  | nil => rfl
  | cons segment rest ih =>
    have hhere := h here List.mem_cons_self
    unfold along at h
    have hrest := fun place hplace => h place (List.mem_cons_of_mem here hplace)
    unfold walk
    rw [hhere]
    cases before.node? here with
    | none => rfl
    | some node =>
      cases node with
      | file contents => rfl
      | device => rfl
      | folder =>
        simp only
        split_ifs at hrest ⊢
        · exact ih hrest
        · exact ih hrest
        · rfl
        · rw [hrest _ (mem_along_self _ _)]
          cases before.node? (here ++ [segment]) with
          | none => rfl
          | some node => exact ih hrest

theorem origin_eq (hstart : after.start = before.start) (path : Path) :
    after.origin path = before.origin path := by
  rw [origin, origin, hstart]

theorem placeOf_eq (hstart : after.start = before.start) (path : Path) :
    after.placeOf path = before.placeOf path := by
  rw [placeOf, placeOf, origin_eq hstart]

theorem locate_congr (hstart : after.start = before.start)
    (h : ∀ place ∈ before.wayOf path, after.node? place = before.node? place) :
    after.locate path = before.locate path := by
  unfold locate
  rw [origin_eq hstart, walk_congr h]

/-- Two states of the files that look the same from a path. -/
structure SameView (path : Path) (before after : Store) : Prop where
  refuses : after.refuses = before.refuses
  locate : after.locate path = before.locate path
  node : ∀ place, before.locate path = .ok place → after.node? place = before.node? place

namespace SameView

theorem of_way (hrefuses : after.refuses = before.refuses) (hstart : after.start = before.start)
    (h : ∀ place ∈ before.wayOf path, after.node? place = before.node? place) :
    SameView path before after where
  refuses := hrefuses
  locate := locate_congr hstart h
  node := by
    intro place hlocate
    rw [← placeOf_of_locate hlocate]
    exact h _ (reach_mem_along _ _)

theorem of_locate (hrefuses : after.refuses = before.refuses)
    (hbefore : before.locate path = .ok place) (hafter : after.locate path = .ok place)
    (hnode : after.node? place = before.node? place) : SameView path before after where
  refuses := hrefuses
  locate := hafter.trans hbefore.symm
  node := by
    intro other hother
    cases hbefore.symm.trans hother
    exact hnode

theorem inspect (h : SameView path before after) : after.inspect path = before.inspect path := by
  have hpermit : after.permit (.inspect path) = before.permit (.inspect path) := by
    rw [permit, permit, h.refuses]
  unfold Store.inspect
  rw [hpermit, h.locate]
  cases hlocate : before.locate path with
  | error refusal => rfl
  | ok place => simp only [bind, Except.bind, h.node place hlocate]

theorem isFile (h : SameView path before after) : after.isFile path = before.isFile path := by
  rw [Store.isFile, Store.isFile, h.inspect]

theorem read (h : SameView path before after) : after.read path = before.read path := by
  have hpermit : after.permit (.read path) = before.permit (.read path) := by
    rw [permit, permit, h.refuses]
  unfold Store.read
  rw [hpermit, h.locate]
  cases hlocate : before.locate path with
  | error refusal => rfl
  | ok place => simp only [bind, Except.bind, h.node place hlocate]

theorem readText (h : SameView path before after) : after.readText path = before.readText path := by
  rw [Store.readText, Store.readText, h.read]

end SameView

theorem isFile_iff :
    store.isFile path = true ↔ store.refuses (.inspect path) = none ∧ ∃ place contents,
      store.locate path = .ok place ∧ store.node? place = some (.file contents) := by
  unfold isFile
  constructor
  · intro h
    split at h
    · rename_i contents hinspect
      obtain ⟨_, hpermit, hinspect⟩ := bind_eq_ok.mp hinspect
      obtain ⟨place, hlocate, hinspect⟩ := bind_eq_ok.mp hinspect
      refine ⟨permit_eq_ok.mp hpermit, place, contents, hlocate, ?_⟩
      split at hinspect
      · rename_i node hnode
        cases hinspect
        exact hnode
      · cases hinspect
    · cases h
  · rintro ⟨hpermit, place, contents, hlocate, hnode⟩
    have hinspect : store.inspect path = .ok (.file contents) := by
      refine bind_eq_ok.mpr ⟨(), permit_eq_ok.mpr hpermit, bind_eq_ok.mpr ⟨place, hlocate, ?_⟩⟩
      rw [hnode]
    rw [hinspect]

/-! ### Behind a file -/

/-- Nothing is looked up behind a file, so a way to another place did not need it. -/
theorem walk_of_putAt {contents : Bytes} {other here : Place} {segments : List Bytes}
    (hput : PutAt path contents place before after) (hother : other ≠ place)
    (h : after.walk here segments = .ok other) : before.walk here segments = .ok other := by
  induction segments generalizing here with
  | nil => exact h
  | cons segment rest ih =>
    have hhere := folder_of_walk_cons h
    have hne : here ≠ place := by
      rintro rfl
      rw [hput.node] at hhere
      cases hhere
    rw [walk_cons hhere] at h
    rw [hput.other hne] at hhere
    rw [walk_cons hhere]
    split_ifs at h ⊢
    · exact ih h
    · exact ih h
    · by_cases hnext : here ++ [segment] = place
      · -- The way would end at the file.
        rw [hnext, hput.node] at h
        cases rest with
        | nil =>
          cases h
          exact absurd rfl hother
        | cons _ _ =>
          have hfolder := folder_of_walk_cons h
          rw [hput.node] at hfolder
          cases hfolder
      · rw [hput.other hnext] at h
        split at h
        · cases h
        · exact ih h

theorem locate_of_putAt {contents : Bytes} {other : Place} {otherPath : Path}
    (hput : PutAt path contents place before after) (hother : other ≠ place)
    (h : after.locate otherPath = .ok other) : before.locate otherPath = .ok other := by
  obtain ⟨_, hformed, hwalk⟩ := bind_eq_ok.mp h
  refine bind_eq_ok.mpr ⟨_, hformed, ?_⟩
  rw [origin_eq hput.start] at hwalk
  exact walk_of_putAt hput hother hwalk

/-- Another file looks as it did before one was put in place. -/
theorem sameView_of_isFile {contents : Bytes} {otherPath : Path}
    (hput : PutAt path contents place before after)
    (hother : ∀ other, before.locate otherPath = .ok other ∨ after.locate otherPath = .ok other →
      other ≠ place)
    (h : before.isFile otherPath = true ∨ after.isFile otherPath = true) :
    SameView otherPath before after := by
  rcases h with h | h
  · obtain ⟨-, other, found, hlocate, hnode⟩ := isFile_iff.mp h
    have hsame := hput.other (hother other (.inl hlocate))
    refine .of_locate hput.refuses hlocate ?_ hsame
    refine locate_of_isSome hput.keepsFolders hput.start hlocate ?_
    rw [hsame, hnode]
    rfl
  · obtain ⟨-, other, found, hlocate, hnode⟩ := isFile_iff.mp h
    have hne := hother other (.inr hlocate)
    exact .of_locate hput.refuses (locate_of_putAt hput hne hlocate) hlocate (hput.other hne)

end Store

/-! ### Files of items -/

/-- The end of the names of files that items are kept in. -/
def itemEnding : Bytes := Utf8.encode ".json"

theorem Path.segments_append {tail : Bytes} (h : slash ∉ tail) (front : Bytes) :
    ∃ way stem, segments (front ++ tail) = way ++ [stem ++ tail] ∧ slash ∉ stem := by
  induction front with
  | nil => exact ⟨[], [], segments_of_notMem h, List.not_mem_nil⟩
  | cons b rest ih =>
    obtain ⟨way, stem, hsegments, hstem⟩ := ih
    rw [List.cons_append, segments, hsegments]
    by_cases hb : b = slash
    · rw [if_pos hb]
      exact ⟨[] :: way, stem, rfl, hstem⟩
    · rw [if_neg hb]
      cases way with
      | nil =>
        refine ⟨[], b :: stem, rfl, ?_⟩
        rw [List.mem_cons, not_or]
        exact ⟨Ne.symm hb, hstem⟩
      | cons s way => exact ⟨(b :: s) :: way, stem, rfl, hstem⟩

theorem Path.simple_itemName {stem : Bytes} (h : slash ∉ stem) :
    Simple (stem ++ itemEnding) := by
  -- The steps that are no names are shorter than the end alone.
  have hlong : ∀ step : Bytes, step.length < 5 → stem ++ itemEnding ≠ step := by
    rintro step hstep rfl
    have hending : itemEnding.length = 5 := by decide
    rw [List.length_append, hending] at hstep
    omega
  refine ⟨hlong [] (by decide), hlong dot (by decide), hlong dotDot (by decide), ?_⟩
  rw [List.mem_append, not_or]
  exact ⟨h, by decide⟩

namespace Store

variable {before after store : Store} {path : Path} {place : Place}

/-- Items are kept in a file whose name tells it. -/
theorem getLast?_of_locate_itemPath {folder : Path} {name : String}
    (h : store.locate (itemPath folder name) = .ok place) :
    ∃ stem, place.getLast? = some (stem ++ itemEnding) := by
  have hbytes : ∃ front, (itemPath folder name).bytes = front ++ itemEnding := by
    unfold itemPath Path.join Path.ofText
    rw [Utf8.encode_append]
    split_ifs
    · exact ⟨_, rfl⟩
    · exact ⟨_, (List.append_assoc _ _ _).symm⟩
    · exact ⟨_, (List.append_assoc _ (Path.slash :: _) _).symm⟩
  obtain ⟨front, hfront⟩ := hbytes
  obtain ⟨way, stem, hsegments, hstem⟩ := Path.segments_append (by decide : Path.slash ∉ itemEnding)
    front
  obtain ⟨_, -, hwalk⟩ := bind_eq_ok.mp h
  rw [hfront, hsegments] at hwalk
  obtain ⟨_, -, hlast⟩ := walk_split hwalk
  exact ⟨stem, getLast?_of_walk (Path.simple_itemName hstem) hlast⟩

/-- What is found in a file of items depends on how it looks. -/
theorem SameView.loadItems {folder : Path} {name : String}
    (h : SameView (itemPath folder name) before after) :
    after.loadItems folder name = before.loadItems folder name := by
  unfold Store.loadItems
  simp only [h.isFile, h.readText]

/-- Items are found as before another file was put in place. -/
theorem loadItems_of_putAt {contents name : Bytes}
    (hput : PutAt path contents place before after) (hlast : place.getLast? = some name)
    (hname : ∀ stem, name ≠ stem ++ itemEnding) (folder : Path) (file : String) :
    after.loadItems folder file = before.loadItems folder file := by
  have hother : ∀ other, before.locate (itemPath folder file) = .ok other ∨
      after.locate (itemPath folder file) = .ok other → other ≠ place := by
    rintro other hlocate rfl
    have hstem : ∃ stem, other.getLast? = some (stem ++ itemEnding) := by
      rcases hlocate with h | h <;> exact getLast?_of_locate_itemPath h
    obtain ⟨stem, hstem⟩ := hstem
    rw [hlast, Option.some.injEq] at hstem
    exact hname stem hstem
  by_cases hfile : before.isFile (itemPath folder file) = true ∨
      after.isFile (itemPath folder file) = true
  · exact (sameView_of_isFile hput hother hfile).loadItems
  · -- There is no such file, before or after.
    rw [not_or, Bool.not_eq_true, Bool.not_eq_true] at hfile
    unfold Store.loadItems
    simp only [hfile.1, hfile.2, Bool.false_eq_true, if_false]

end Store

end Vitae
