import Vitae.Proofs.Files.Lookup

/-!
# Changes to the Store

What the operations on files leave behind, whether they succeed or are refused. The
relations compare two states of a store and not the steps between them, so they can be
put together: a store that has grown twice has grown.

Making folders goes upwards until something is there and then down again, and it may
be refused at any step. What it leaves is a store that has grown, by folders that some
path at or above the given one leads to (`grows_makeFolders`). A draft is either ready
or gone (`prepare_cases`), and publishing it either puts it in place of what was there
or drops it (`commit_cases`).

## Main definitions

* `Path.AtOrAbove`: A path or one of those above it.
* `Store.Made`: A folder that was made on the way to a path.
* `Store.Grows`: A store with more folders, and nothing else changed.
* `Store.Replaced`: A store with a file in place, and nothing else changed.

## Theorems

* `Store.Grows.trans`: Growing twice is growing.
* `Store.Grows.file_iff`: A store that has only grown has the files it had.
* `Store.grows_makeFolders`: Making folders lets a store grow, even if it is refused.
* `Store.prepare_cases`, `Store.commit_cases`: The two ends of a draft.
* `Store.Grows.replaced`: A file that is put in place once its folder has been made.
-/

namespace Vitae

/-- A path or one of those above it. -/
inductive Path.AtOrAbove : Path → Path → Prop
  | refl (path : Path) : AtOrAbove path path
  | above {upper parent path : Path} (hparent : path.parent = some parent)
      (h : AtOrAbove upper parent) : AtOrAbove upper path

namespace Store

variable {before middle after store : Store} {path : Path} {place : Place}

/-- A folder that was made on the way to a path, where nothing was before. -/
structure Made (path : Path) (before after : Store) (place : Place) : Prop where
  nothing : before.node? place = none
  folder : after.node? place = some .folder
  onTheWay : ∃ upper, Path.AtOrAbove upper path ∧ after.locate upper = .ok place

/-- A store with more folders on the way to a path, and nothing else changed. -/
structure Grows (path : Path) (before after : Store) : Prop where
  node : ∀ place, after.node? place = before.node? place ∨ Made path before after place
  start : after.start = before.start
  drafts : after.drafts = before.drafts

theorem Grows.refl (path : Path) (store : Store) : Grows path store store :=
  ⟨fun _ => .inl rfl, rfl, rfl⟩

theorem Grows.keepsFolders (h : Grows path before after) : KeepsFolders before after := by
  intro place hplace
  rcases h.node place with heq | hmade
  · rw [heq, hplace]
  · exact hmade.folder

/-- A folder that was made stays as long as folders stay. -/
theorem Made.of_keepsFolders (h : Made path before middle place)
    (hkeep : KeepsFolders middle after) (hstart : after.start = middle.start) :
    Made path before after place := by
  obtain ⟨upper, habove, hlocate⟩ := h.onTheWay
  exact ⟨h.nothing, hkeep place h.folder, upper, habove,
    locate_of_keepsFolders hkeep hstart hlocate h.folder⟩

theorem Grows.trans (h : Grows path before middle) (h' : Grows path middle after) :
    Grows path before after := by
  refine ⟨fun place => ?_, h'.start.trans h.start, h'.drafts.trans h.drafts⟩
  rcases h'.node place with heq | hmade
  · rcases h.node place with heq' | hmade'
    · exact .inl (heq.trans heq')
    · exact .inr (hmade'.of_keepsFolders h'.keepsFolders h'.start)
  · -- Where nothing was in between, nothing was before.
    rcases h.node place with heq' | hmade'
    · exact .inr ⟨heq' ▸ hmade.nothing, hmade.folder, hmade.onTheWay⟩
    · have hnothing := hmade.nothing
      rw [hmade'.folder] at hnothing
      cases hnothing

/-- What is on the way to the path above is on the way to the path. -/
theorem Grows.of_parent {parent : Path} (hparent : path.parent = some parent)
    (h : Grows parent before after) : Grows path before after := by
  refine ⟨fun place => ?_, h.start, h.drafts⟩
  rcases h.node place with heq | ⟨hnothing, hfolder, upper, habove, hlocate⟩
  · exact .inl heq
  · exact .inr ⟨hnothing, hfolder, upper, .above hparent habove, hlocate⟩

theorem grows_makeFolder (h : store.makeFolder path = .ok after) : Grows path store after := by
  obtain ⟨-, -, h⟩ := bind_eq_ok.mp h
  obtain ⟨slot, hslot, h⟩ := bind_eq_ok.mp h
  split at h
  · cases h
  · rename_i place hplace
    split_ifs at h with hsome
    cases h
    have hnothing : store.node? place = none := by
      rw [← Option.not_isSome_iff_eq_none]
      exact hsome
    have hkeep : KeepsFolders store (store.put place .folder) :=
      keepsFolders_put (hnothing ▸ (Option.some_ne_none _).symm) .folder
    obtain ⟨name, way, idle, rfl, hleads⟩ := leads_of_slot hslot hplace
    refine ⟨fun other => ?_, rfl, rfl⟩
    by_cases hother : other = slot.folder ++ [name]
    · subst hother
      exact .inr ⟨hnothing, node?_put_self store _ _, path, .refl path,
        hleads.locate hkeep rfl (node?_put_self store _ _) (.inr rfl)⟩
    · exact .inl (node?_put_of_ne store hother .folder)

theorem grows_makeFoldersWithin (fuel : Nat) (store : Store) (path : Path) :
    Grows path store (makeFoldersWithin fuel store path).2 := by
  induction fuel generalizing store path with
  | zero => exact .refl path store
  | succ fuel ih =>
    unfold makeFoldersWithin
    split
    · exact .refl path store
    · split
      · rename_i hmake
        exact grows_makeFolder hmake
      · -- The folder above is missing, so it is made first.
        split
        · exact .refl path store
        · rename_i parent hparent
          have habove := ih store parent
          split
          · rename_i heq
            rw [heq] at habove
            exact habove.of_parent hparent
          · rename_i heq
            rw [heq] at habove
            split
            · rename_i hmake
              exact (habove.of_parent hparent).trans (grows_makeFolder hmake)
            · simp only
              split <;> exact habove.of_parent hparent
      · simp only
        split <;> exact .refl path store

/-- Making folders changes nothing but to add some on the way, whether it succeeds or
not. -/
theorem grows_makeFolders (store : Store) (path : Path) :
    Grows path store (store.makeFolders path).2 :=
  grows_makeFoldersWithin _ store path

theorem stage_ok {folder : Path} {staged : Store} (h : store.stage folder = .ok staged) :
    ∃ place, staged = { store with drafts := ⟨place, []⟩ :: store.drafts } := by
  obtain ⟨-, -, h⟩ := bind_eq_ok.mp h
  -- The place is the start or what the path leads to, and either must be a folder.
  split at h
  all_goals
    obtain ⟨place, -, h⟩ := bind_eq_ok.mp h
    beta_reduce at h
    split at h
    · cases h
      exact ⟨place, rfl⟩
    · cases h

/-- A draft is ready, or there is none. -/
theorem prepare_cases {folder : Path} {contents : Bytes} {result : Except Refusal Unit}
    (h : store.prepare folder contents = (result, after)) :
    ((∃ refusal, result = .error refusal) ∧ after = store) ∨
      (result = .ok () ∧
        ∃ place, after = { store with drafts := ⟨place, contents⟩ :: store.drafts }) := by
  unfold prepare at h
  split at h
  · cases h
    exact .inl ⟨⟨_, rfl⟩, rfl⟩
  · rename_i staged hstaged
    obtain ⟨place, rfl⟩ := stage_ok hstaged
    unfold fill flush at h
    cases hfill : store.refuses .fill with
    | some refusal =>
      simp only [permit, hfill, bind, Except.bind] at h
      cases h
      exact .inl ⟨⟨_, rfl⟩, rfl⟩
    | none =>
      cases hflush : store.refuses .flush with
      | some refusal =>
        simp only [permit, hfill, hflush, bind, Except.bind] at h
        cases h
        exact .inl ⟨⟨_, rfl⟩, rfl⟩
      | none =>
        simp only [permit, hfill, hflush, bind, Except.bind] at h
        cases h
        exact .inr ⟨rfl, place, rfl⟩

/-- What publishing asks of a path, and what it leaves. -/
theorem publish_ok {draft : Draft} {rest : List Draft} (hdrafts : store.drafts = draft :: rest)
    (h : store.publish path = .ok after) :
    ∃ slot place, store.slot path = .ok slot ∧ slot.place? = some place ∧ slot.slashed = false ∧
      store.node? place ≠ some .folder ∧
      after = { store.put place (.file draft.contents) with drafts := rest } := by
  obtain ⟨-, -, h⟩ := bind_eq_ok.mp h
  split at h
  · cases h
  · obtain ⟨slot, hslot, h⟩ := bind_eq_ok.mp h
    split at h
    · cases h
    · rename_i place hplace
      split at h
      · cases h
      · rename_i hslashed
        split at h
        · cases h
        · rename_i heq hfolder
          rw [hdrafts] at heq
          cases heq
          cases h
          exact ⟨slot, place, hslot, hplace, (Bool.not_eq_true _).mp hslashed, hfolder, rfl⟩
        · cases h

/-- A draft becomes the file that a path names, or it is dropped. -/
theorem commit_cases {draft : Draft} {result : Except Refusal Unit}
    (h : ({ store with drafts := draft :: store.drafts } : Store).commit path = (result, after)) :
    ((∃ refusal, result = .error refusal) ∧ after = store) ∨
      (result = .ok () ∧ ∃ place, store.node? place ≠ some .folder ∧
        after = store.put place (.file draft.contents) ∧ after.locate path = .ok place) := by
  unfold commit at h
  split at h
  · cases h
    exact .inl ⟨⟨_, rfl⟩, rfl⟩
  · rename_i published hpublish
    cases h
    obtain ⟨slot, place, hslot, hplace, hslashed, hfolder, rfl⟩ := publish_ok rfl hpublish
    obtain ⟨name, way, idle, rfl, hleads⟩ := leads_of_slot hslot hplace
    refine .inr ⟨rfl, slot.folder ++ [name], hfolder, rfl, ?_⟩
    -- A file is not a folder, so the path must not end in a slash, and it does not.
    exact hleads.locate (keepsFolders_put hfolder _) rfl (node?_put_self store _ _)
      (.inl (hleads.slashed hslashed))

/-- A store in which a path leads to a file with the given contents. There may be more
folders on the way to it, and nothing else has changed. -/
structure Replaced (path : Path) (contents : Bytes) (place : Place) (before after : Store) :
    Prop where
  locate : after.locate path = .ok place
  contents : after.node? place = some (.file contents)
  notFolder : before.node? place ≠ some .folder
  other : ∀ other ≠ place,
    after.node? other = before.node? other ∨ Made path.directory before after other
  start : after.start = before.start
  drafts : after.drafts = before.drafts

/-- A file that is put in place once its folder has been made. -/
theorem Grows.replaced (h : Grows path.directory before middle) {contents : Bytes}
    (hfolder : middle.node? place ≠ some .folder)
    (hlocate : (middle.put place (.file contents)).locate path = .ok place) :
    Replaced path contents place before (middle.put place (.file contents)) := by
  have hkeep := keepsFolders_put hfolder (.file contents)
  refine ⟨hlocate, node?_put_self middle place _, fun hbefore => hfolder (h.keepsFolders place hbefore),
    fun other hother => ?_, h.start, h.drafts⟩
  rcases h.node other with heq | hmade
  · exact .inl ((node?_put_of_ne middle hother _).trans heq)
  · exact .inr (hmade.of_keepsFolders hkeep rfl)

/-- The contents of the file at a place, if there is a file. -/
def contents? (store : Store) (place : Place) : Option Bytes :=
  match store.node? place with
  | some (.file contents) => some contents
  | _ => none

end Store

end Vitae
