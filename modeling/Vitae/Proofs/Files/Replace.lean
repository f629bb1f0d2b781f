import Vitae.Proofs.Files.Growth

/-!
# Replacing Files

A file that is written through a draft is either replaced as a whole or left alone
(`replaceFile_cases`). Where it is follows from its path: the last part of the path is
the name that the file has in its folder (`getLast?_of_locate_join`), so that files of
different names are different files, whatever the paths of their folders look like.

A path that leads somewhere goes on leading there while folders stay folders and
something is still there (`locate_of_isSome`).

## Main definitions

* `Store.PutAt`: A store in which one file has been replaced.
* `Path.Simple`: A name that is a part of a path by itself.

## Theorems

* `Path.exists_segments_join`: What a path that has been put together is cut into.
* `Path.segments_join`: The last part of a path that has been put together.
* `Store.read_eq_ok`: What is read is what is there.
* `Store.locate_of_isSome`: The way to what is still there stays open.
* `Store.getLast?_of_locate_join`: A path leads to a place of its name.
* `Store.replaceFile_cases`: The two ends of replacing a file.
* `Store.refuses_makeFolders`: Making folders does not change what is refused.
-/

namespace Vitae

namespace Path

/-! ### Names -/

theorem segments_ne_nil (bytes : Bytes) : segments bytes ≠ [] := by
  cases bytes with
  | nil => exact List.cons_ne_nil _ _
  | cons b rest =>
    unfold segments
    split
    · exact List.cons_ne_nil _ _
    · split <;> exact List.cons_ne_nil _ _

theorem segments_append_slash (front back : Bytes) :
    segments (front ++ slash :: back) = segments front ++ segments back := by
  induction front with
  | nil =>
    change segments (slash :: back) = [[]] ++ segments back
    rw [segments.eq_2, if_pos rfl, List.singleton_append]
  | cons b rest ih =>
    rw [List.cons_append, segments.eq_2, segments.eq_2, ih]
    by_cases hb : b = slash
    · rw [if_pos hb, if_pos hb, List.cons_append]
    · rw [if_neg hb, if_neg hb]
      -- The first stretch grows, and it is one of the front.
      cases hrest : segments rest with
      | nil => exact absurd hrest (segments_ne_nil rest)
      | cons s ss => simp only [List.cons_append]

theorem segments_of_notMem {name : Bytes} (h : slash ∉ name) : segments name = [name] := by
  induction name with
  | nil => rfl
  | cons b rest ih =>
    rw [List.mem_cons, not_or] at h
    rw [segments, if_neg (Ne.symm h.1), ih h.2]

/-- A name that is a part of a path by itself. -/
structure Simple (name : Bytes) : Prop where
  ne_nil : name ≠ []
  ne_dot : name ≠ dot
  ne_dotDot : name ≠ dotDot
  slash_notMem : slash ∉ name

theorem Simple.isIdle_eq {name : Bytes} (h : Simple name) :
    (name.isEmpty || name == dot) = false := by
  rw [Bool.or_eq_false_iff, ← Bool.not_eq_true, List.isEmpty_iff, beq_eq_false_iff_ne]
  exact ⟨h.ne_nil, h.ne_dot⟩

theorem Simple.isUp_eq {name : Bytes} (h : Simple name) : (name == dotDot) = false :=
  beq_eq_false_iff_ne.mpr h.ne_dotDot

theorem Simple.isAbsolute_eq {name : Bytes} (h : Simple name) : isAbsolute ⟨name⟩ = false := by
  rw [isAbsolute, ← Bool.not_eq_true, beq_iff_eq]
  intro hhead
  exact h.slash_notMem (List.mem_of_mem_head? hhead)

/-- A relative path is put behind a folder without the stretches at the end of the folder that
are empty. -/
theorem exists_segments_join (folder : Path) :
    ∃ way idle, segments folder.bytes = way ++ idle ∧ (∀ segment ∈ idle, segment = []) ∧
      (folder.bytes ≠ [] → way ≠ []) ∧ ∀ path : Path, path.isAbsolute = false →
        segments (folder.join path).bytes = way ++ segments path.bytes := by
  by_cases hempty : folder.bytes = []
  · refine ⟨[], [[]], ?_, fun _ => List.mem_singleton.mp, absurd hempty, fun path h => ?_⟩
    · rw [hempty]
      rfl
    · rw [join, h, if_neg Bool.false_ne_true, hempty, List.isEmpty_nil, Bool.true_or, if_pos rfl]
      rfl
  · by_cases hslashed : folder.bytes.getLast? = some slash
    · -- A slash at the end of the folder is the one in front of the path.
      obtain ⟨front, hfront⟩ := List.getLast?_eq_some_iff.mp hslashed
      refine ⟨segments front, [[]], ?_, fun _ => List.mem_singleton.mp,
        fun _ => segments_ne_nil front, fun path h => ?_⟩
      · rw [hfront, segments_append_slash]
        rfl
      · rw [join, h, if_neg Bool.false_ne_true, hslashed, beq_self_eq_true, Bool.or_true,
          if_pos rfl, hfront]
        change segments ((front ++ [slash]) ++ path.bytes) = _
        rw [List.append_assoc, List.singleton_append, segments_append_slash]
    · refine ⟨segments folder.bytes, [], (List.append_nil _).symm,
        fun _ h => absurd h List.not_mem_nil, fun _ => segments_ne_nil _, fun path h => ?_⟩
      rw [join, h, if_neg Bool.false_ne_true, if_neg]
      · exact segments_append_slash _ _
      · rw [Bool.or_eq_true, not_or, List.isEmpty_iff, beq_iff_eq]
        exact ⟨hempty, hslashed⟩

/-- The name is the last part of a path that has been put together, and the parts in front of
it do not depend on it. -/
theorem segments_join (folder : Path) :
    ∃ way, ∀ name, Simple name → segments (folder.join ⟨name⟩).bytes = way ++ [name] := by
  obtain ⟨way, -, -, -, -, hjoin⟩ := exists_segments_join folder
  refine ⟨way, fun name h => ?_⟩
  rw [hjoin ⟨name⟩ h.isAbsolute_eq, segments_of_notMem h.slash_notMem]

end Path

namespace Store

variable {before middle after store : Store} {path folder : Path} {place : Place} {name : Bytes}

/-! ### Where a path leads -/

theorem walk_of_isSome (hkeep : KeepsFolders before after) {here : Place} {segments : List Bytes}
    (h : before.walk here segments = .ok place) (hsome : (after.node? place).isSome) :
    after.walk here segments = .ok place := by
  induction segments generalizing here with
  | nil => exact h
  | cons segment rest ih =>
    have hhere := folder_of_walk_cons h
    rw [walk_cons hhere] at h
    rw [walk_cons (hkeep here hhere)]
    split_ifs at h ⊢
    · exact ih h
    · exact ih h
    · split at h
      · cases h
      · -- What is entered is the place itself, or a folder on the way to it.
        have hnext : (after.node? (here ++ [segment])).isSome := by
          cases rest with
          | nil =>
            rw [walk, Except.ok.injEq] at h
            rwa [h]
          | cons _ _ =>
            rw [hkeep _ (folder_of_walk_cons h)]
            rfl
        obtain ⟨node, hnode⟩ := Option.isSome_iff_exists.mp hnext
        rw [hnode]
        exact ih h

/-- The way to what is still there stays open while folders stay folders. -/
theorem locate_of_isSome (hkeep : KeepsFolders before after) (hstart : after.start = before.start)
    (h : before.locate path = .ok place) (hsome : (after.node? place).isSome) :
    after.locate path = .ok place := by
  have horigin : after.origin path = before.origin path := by
    rw [origin, origin, hstart]
  obtain ⟨_, hformed, hwalk⟩ := bind_eq_ok.mp h
  refine bind_eq_ok.mpr ⟨_, hformed, ?_⟩
  rw [horigin]
  exact walk_of_isSome hkeep hwalk hsome

theorem getLast?_of_walk (hname : Path.Simple name) {here : Place}
    (h : store.walk here [name] = .ok place) : place.getLast? = some name := by
  rw [walk_cons (folder_of_walk_cons h), hname.isIdle_eq, hname.isUp_eq] at h
  simp only [Bool.false_eq_true, if_false] at h
  split_ifs at h
  split at h
  · cases h
  · cases h
    exact List.getLast?_concat

/-- A path leads to a place of its name. -/
theorem getLast?_of_locate_join (hname : Path.Simple name)
    (h : store.locate (folder.join ⟨name⟩) = .ok place) : place.getLast? = some name := by
  obtain ⟨way, hway⟩ := Path.segments_join folder
  obtain ⟨_, -, hwalk⟩ := bind_eq_ok.mp h
  rw [hway name hname] at hwalk
  obtain ⟨_, -, hlast⟩ := walk_split hwalk
  exact getLast?_of_walk hname hlast

/-! ### Reading -/

theorem permit_eq_ok {access : Access} {u : Unit} :
    store.permit access = .ok u ↔ store.refuses access = none := by
  unfold permit
  cases store.refuses access with
  | none => exact ⟨fun _ => rfl, fun _ => rfl⟩
  | some refusal => constructor <;> intro h <;> cases h

/-- What is read is what is there, a device being empty. -/
theorem read_eq_ok {contents : Bytes} :
    store.read path = .ok contents ↔
      store.refuses (.read path) = none ∧ ∃ place, store.locate path = .ok place ∧
        (store.node? place = some (.file contents) ∨
          store.node? place = some .device ∧ contents = []) := by
  constructor
  · intro h
    obtain ⟨_, hpermit, h⟩ := bind_eq_ok.mp h
    obtain ⟨place, hlocate, h⟩ := bind_eq_ok.mp h
    refine ⟨permit_eq_ok.mp hpermit, place, hlocate, ?_⟩
    split at h
    · rename_i hnode
      cases h
      exact .inl hnode
    · cases h
    · rename_i hnode
      cases h
      exact .inr ⟨hnode, rfl⟩
    · cases h
  · rintro ⟨hpermit, place, hlocate, hthere⟩
    refine bind_eq_ok.mpr ⟨(), permit_eq_ok.mpr hpermit, bind_eq_ok.mpr ⟨place, hlocate, ?_⟩⟩
    rcases hthere with hnode | ⟨hnode, rfl⟩ <;> rw [hnode]

/-- What could be read can still be read while it is where it was. -/
theorem read_of_keepsFolders (hkeep : KeepsFolders before after) (hstart : after.start = before.start)
    (hrefuses : after.refuses = before.refuses) {contents : Bytes}
    (hnode : ∀ place node, before.locate path = .ok place → before.node? place = some node →
      after.node? place = some node)
    (h : before.read path = .ok contents) : after.read path = .ok contents := by
  obtain ⟨hpermit, place, hlocate, hthere⟩ := read_eq_ok.mp h
  have hafter : after.node? place = before.node? place := by
    rcases hthere with heq | ⟨heq, -⟩ <;> rw [heq, hnode place _ hlocate heq]
  have hsome : (after.node? place).isSome := by
    rw [hafter]
    rcases hthere with heq | ⟨heq, -⟩ <;> rw [heq] <;> rfl
  refine read_eq_ok.mpr ⟨hrefuses ▸ hpermit, place, locate_of_isSome hkeep hstart hlocate hsome, ?_⟩
  rw [hafter]
  exact hthere

theorem Grows.read (h : Grows folder before after) (hrefuses : after.refuses = before.refuses)
    {contents : Bytes} (hread : before.read path = .ok contents) : after.read path = .ok contents := by
  refine read_of_keepsFolders h.keepsFolders h.start hrefuses (fun place node _ hnode => ?_) hread
  rcases h.node place with heq | hmade
  · rw [heq, hnode]
  · -- Folders are only made where nothing was.
    have hnothing := hmade.nothing
    rw [hnode] at hnothing
    cases hnothing

/-! ### Replacing a file -/

/-- A store in which the file that a path leads to has been replaced, and nothing else. -/
structure PutAt (path : Path) (contents : Bytes) (place : Place) (before after : Store) : Prop where
  notFolder : before.node? place ≠ some .folder
  eq : after = before.put place (.file contents)
  locate : after.locate path = .ok place

namespace PutAt

variable {contents : Bytes}

theorem node (h : PutAt path contents place before after) :
    after.node? place = some (.file contents) := by
  rw [h.eq, node?_put_self]

theorem other (h : PutAt path contents place before after) {other : Place} (hother : other ≠ place) :
    after.node? other = before.node? other := by
  rw [h.eq, node?_put_of_ne before hother]

theorem keepsFolders (h : PutAt path contents place before after) : KeepsFolders before after := by
  rw [h.eq]
  exact keepsFolders_put h.notFolder _

theorem start (h : PutAt path contents place before after) : after.start = before.start := by
  rw [h.eq]
  rfl

theorem drafts (h : PutAt path contents place before after) : after.drafts = before.drafts := by
  rw [h.eq]
  rfl

theorem refuses (h : PutAt path contents place before after) : after.refuses = before.refuses := by
  rw [h.eq]
  rfl

/-- Another file can be read as before. -/
theorem read_of_ne (h : PutAt path contents place before after) {otherPath : Path} {found : Bytes}
    (hother : ∀ other, before.locate otherPath = .ok other → other ≠ place)
    (hread : before.read otherPath = .ok found) : after.read otherPath = .ok found :=
  read_of_keepsFolders h.keepsFolders h.start h.refuses
    (fun other _ hlocate hnode => (h.other (hother other hlocate)).trans hnode) hread

end PutAt

/-- A file is replaced as a whole or left alone. -/
theorem replaceFile_cases {contents : Bytes} {result : Except Refusal Unit}
    (h : store.replaceFile folder path contents = (result, after)) :
    ((∃ refusal, result = .error refusal) ∧ after = store) ∨
      (result = .ok () ∧ ∃ place, PutAt path contents place store after) := by
  unfold replaceFile at h
  split at h
  · rename_i hprepare
    cases h
    rcases prepare_cases hprepare with ⟨-, rfl⟩ | ⟨hok, -⟩
    · exact .inl ⟨⟨_, rfl⟩, rfl⟩
    · cases hok
  · rename_i hprepare
    rcases prepare_cases hprepare with ⟨⟨_, herror⟩, -⟩ | ⟨-, _, rfl⟩
    · cases herror
    · rcases commit_cases h with hrefused | ⟨hok, place, hfolder, heq, hlocate⟩
      · exact .inl hrefused
      · exact .inr ⟨hok, place, hfolder, heq, hlocate⟩

/-! ### What is refused -/

theorem refuses_makeFolder (h : store.makeFolder path = .ok after) :
    after.refuses = store.refuses := by
  obtain ⟨-, -, h⟩ := bind_eq_ok.mp h
  obtain ⟨_, -, h⟩ := bind_eq_ok.mp h
  split at h
  · cases h
  · split_ifs at h
    cases h
    rfl

theorem refuses_makeFoldersWithin (fuel : Nat) (store : Store) (path : Path) :
    (makeFoldersWithin fuel store path).2.refuses = store.refuses := by
  induction fuel generalizing store path with
  | zero => rfl
  | succ fuel ih =>
    unfold makeFoldersWithin
    split
    · rfl
    · split
      · rename_i hmake
        exact refuses_makeFolder hmake
      · split
        · rfl
        · rename_i parent _
          have habove := ih store parent
          split
          · rename_i heq
            rw [heq] at habove
            exact habove
          · rename_i heq
            rw [heq] at habove
            split
            · rename_i hmake
              exact (refuses_makeFolder hmake).trans habove
            · simp only
              split <;> exact habove
      · simp only
        split <;> rfl

/-- Making folders does not change what is refused for outside reasons. -/
theorem refuses_makeFolders (store : Store) (path : Path) :
    (store.makeFolders path).2.refuses = store.refuses :=
  refuses_makeFoldersWithin _ store path

end Store

end Vitae
