import Vitae.Proofs.Files.Replace
import Vitae.Proofs.Release.Record
import Vitae.Proofs.Release.Version
import Vitae.Release.Update

/-!
# The Courses of an Update

An update is a long procedure with many ways out. This module says once what each of
them leaves behind, so that nothing about updates has to be proved by going through the
procedure again.

Installing makes folders, puts the artifact in place and then the record, and may fail
in between (`Installs`). An update fails before it asks for the artifact, or has nothing
to do, or loses the artifact on the way, or comes to install it (`Course`). Which of
these happens is decided by the version of the manifest and the baseline: the artifact is
asked for only if it is newer (`Newer`).

The artifact and the record never get in each other's way, since their names differ
(`artifactPlace_ne`).

## Main definitions

* `Updater.Installs`: What installing a release leaves, by the way it ends.
* `Updater.Newer`: A release that exceeds the baseline.
* `Updater.Course`: What an update leaves, by the way it goes.

## Theorems

* `Updater.baseline_eq_ok`: The baseline is the later of two versions.
* `Updater.installs_install`, `Updater.course_update`: There are no other ways.
* `Updater.artifactPlace_ne`: An artifact is not at the place of a record.
-/

namespace Vitae

namespace Updater

variable {updater : Updater} {version : Version} {store : Store} {place : Place}

/-! ### Names -/

theorem simple_recordName : Path.Simple (Utf8.encode recordName) where
  ne_nil := by decide
  ne_dot := by decide
  ne_dotDot := by decide
  slash_notMem := by decide

/-- The first letter of an artifact's name is that of the program. -/
theorem head?_artifactName (version : Version) :
    (Utf8.encode ("json2pdf-backend-" ++ version.text)).head? = some 0x6A := by
  have hprogram : Utf8.encode "json2pdf-backend-" = 0x6A :: Utf8.encode "son2pdf-backend-" := by
    decide
  rw [Utf8.encode_append, hprogram]
  rfl

theorem slash_notMem_text (version : Version) : Path.slash ∉ Utf8.encode version.text := by
  intro hslash
  obtain ⟨c, hc, hbyte⟩ := List.mem_flatMap.mp hslash
  -- All characters of a version are ASCII, and none of them is a slash.
  have hnumber : c.toNat < 0x80 ∧ c.toNat ≠ 47 := by
    rcases Version.isDigit_or_eq_of_mem_text hc with hdigit | rfl
    · have hbounds : 48 ≤ c.toNat ∧ c.toNat ≤ 57 := Char.isDigit_iff_toNat.mp hdigit
      omega
    · decide
  rw [Utf8.utf8EncodeChar_one hnumber.1, List.mem_singleton, ← UInt8.toNat_inj,
    UInt8.toNat_ofNat'] at hbyte
  have hslash : Path.slash.toNat = 47 := rfl
  omega

theorem simple_artifactName (version : Version) :
    Path.Simple (Utf8.encode ("json2pdf-backend-" ++ version.text)) := by
  have hhead := head?_artifactName version
  refine ⟨?_, ?_, ?_, ?_⟩
  · intro heq
    rw [heq] at hhead
    cases hhead
  · intro heq
    rw [heq] at hhead
    cases hhead
  · intro heq
    rw [heq] at hhead
    cases hhead
  · rw [Utf8.encode_append, List.mem_append, not_or]
    exact ⟨by decide, slash_notMem_text version⟩

/-- A record is at a place of its name. -/
theorem getLast?_of_locate_record (h : store.locate updater.recordPath = .ok place) :
    place.getLast? = some (Utf8.encode recordName) :=
  Store.getLast?_of_locate_join simple_recordName h

/-- An artifact is not at the place of a record. -/
theorem artifactPlace_ne (h : store.locate (updater.artifactPath version) = .ok place) {other : Place}
    (hother : other.getLast? = some (Utf8.encode recordName)) : other ≠ place := by
  rintro rfl
  have hlast := Store.getLast?_of_locate_join (simple_artifactName version) h
  rw [hother, Option.some.injEq] at hlast
  have hhead := head?_artifactName version
  rw [← hlast] at hhead
  exact absurd hhead (by decide)

/-! ### Installing -/

/-- What installing a release leaves, by the way it ends. -/
inductive Installs (updater : Updater) (version : Version) (artifact : Bytes) (now : String)
    (before : Store) : Except UpdateError Path → Store → Prop
  /-- There may be new folders. -/
  | folders {error : UpdateError} {after : Store}
      (hgrows : Store.Grows updater.folder before after)
      (hrefuses : after.refuses = before.refuses) :
      Installs updater version artifact now before (.error error) after
  /-- The artifact is in place, but there is no record of it. -/
  | unrecorded {error : UpdateError} {middle after : Store} {place : Place}
      (hgrows : Store.Grows updater.folder before middle)
      (hrefuses : middle.refuses = before.refuses)
      (hartifact : Store.PutAt (updater.artifactPath version) artifact place middle after) :
      Installs updater version artifact now before (.error error) after
  /-- The artifact is in place, and so is the record of it. -/
  | recorded {middle written after : Store} {place recordPlace : Place} {text : String}
      (hgrows : Store.Grows updater.folder before middle)
      (hrefuses : middle.refuses = before.refuses)
      (hartifact : Store.PutAt (updater.artifactPath version) artifact place middle written)
      (htext : (updater.artifactPath version).bytes = Utf8.encode text)
      (hrecord : Store.PutAt updater.recordPath
        (Utf8.encode (Installed.text ⟨version.text, text, now⟩)) recordPlace written after) :
      Installs updater version artifact now before (.ok (updater.artifactPath version)) after

theorem installs_writeRecord {artifact : Bytes} {now : String} {before middle written : Store}
    (hgrows : Store.Grows updater.folder before middle) (hrefuses : middle.refuses = before.refuses)
    (hartifact : Store.PutAt (updater.artifactPath version) artifact place middle written) :
    Installs updater version artifact now before (updater.writeRecord version now written).1
      (updater.writeRecord version now written).2 := by
  unfold writeRecord
  simp only
  split
  · exact .unrecorded hgrows hrefuses hartifact
  · rename_i text htext
    split
    · rename_i hreplace
      rcases Store.replaceFile_cases hreplace with ⟨-, rfl⟩ | ⟨hok, -⟩
      · exact .unrecorded hgrows hrefuses hartifact
      · cases hok
    · rename_i hreplace
      rcases Store.replaceFile_cases hreplace with ⟨⟨_, herror⟩, -⟩ | ⟨-, recordPlace, hrecord⟩
      · cases herror
      · exact .recorded hgrows hrefuses hartifact (Utf8.decode?_eq_some_iff.mp htext) hrecord

/-- Installing leaves new folders, an artifact without a record of it, or both. -/
theorem installs_install (updater : Updater) (version : Version) (artifact : Bytes) (now : String)
    (store : Store) :
    Installs updater version artifact now store (updater.install version artifact now store).1
      (updater.install version artifact now store).2 := by
  have hgrows := Store.grows_makeFolders store updater.folder
  have hrefuses := Store.refuses_makeFolders store updater.folder
  unfold install
  split
  · rename_i heq
    rw [heq] at hgrows hrefuses
    exact .folders hgrows hrefuses
  · rename_i middle heq
    rw [heq] at hgrows hrefuses
    split
    · rename_i hreplace
      rcases Store.replaceFile_cases hreplace with ⟨-, rfl⟩ | ⟨hok, -⟩
      · exact .folders hgrows hrefuses
      · cases hok
    · rename_i written hreplace
      rcases Store.replaceFile_cases hreplace with ⟨⟨_, herror⟩, -⟩ | ⟨-, place, hartifact⟩
      · cases herror
      · exact installs_writeRecord hgrows hrefuses hartifact

/-! ### Updating -/

theorem readVersion_eq_ok {text : String} :
    readVersion text = .ok version ↔ Version.parse? text = some version := by
  unfold readVersion
  split
  · rename_i heq
    rw [heq, Except.ok.injEq, Option.some.injEq]
  · rename_i heq
    rw [heq]
    constructor <;> intro h <;> cases h

/-- The baseline is the version that is running, or the one that was installed if that
is later. -/
theorem baseline_eq_ok {current : String} :
    updater.baseline current store = .ok version ↔
      ∃ running installed, Version.parse? current = some running ∧
        updater.installedVersion store = .ok installed ∧
        version = installed.elim running fun installed => installed.max running := by
  unfold baseline
  cases hcurrent : readVersion current with
  | error error =>
    have hnone : Version.parse? current = none := by
      rw [← Option.not_isSome_iff_eq_none, Option.isSome_iff_exists]
      rintro ⟨running, hrunning⟩
      rw [readVersion_eq_ok.mpr hrunning] at hcurrent
      cases hcurrent
    constructor
    · intro h
      cases h
    · rintro ⟨running, installed, hrunning, -⟩
      rw [hnone] at hrunning
      cases hrunning
  | ok running =>
    rw [readVersion_eq_ok.mp hcurrent]
    cases hinstalled : updater.installedVersion store with
    | error error =>
      constructor
      · intro h
        cases h
      · rintro ⟨_, installed, -, hok, -⟩
        cases hok
    | ok installed =>
      constructor
      · intro h
        refine ⟨running, installed, rfl, rfl, ?_⟩
        cases installed <;> cases h <;> rfl
      · rintro ⟨_, _, hrunning, hok, rfl⟩
        cases hrunning
        cases hok
        cases installed <;> rfl

/-- A release that exceeds the baseline. -/
structure Newer (updater : Updater) (current : String) (store : Store) (manifest : Manifest)
    (version : Version) : Prop where
  latest : updater.source.latest = .ok manifest
  parse : Version.parse? manifest.version = some version
  exceeds : ∃ baseline, updater.baseline current store = .ok baseline ∧ baseline.lt version = true

/-- What an update leaves, by the way it goes. -/
inductive Course (updater : Updater) (cancelled : Wait → Bool) (now current : String)
    (before : UpdateRun) : Except UpdateError UpdateStatus → UpdateRun → Prop
  /-- It fails before it asks for the artifact. -/
  | early {error : UpdateError} {after : UpdateRun}
      (hstore : after.session.store = before.session.store)
      (hrequests : after.requests = before.requests) :
      Course updater cancelled now current before (.error error) after
  /-- There is nothing newer. -/
  | upToDate {manifest : Manifest} {version baseline : Version} {after : UpdateRun}
      (hlatest : updater.source.latest = .ok manifest)
      (hparse : Version.parse? manifest.version = some version)
      (hbaseline : updater.baseline current before.session.store = .ok baseline)
      (hle : version.le baseline = true)
      (hstore : after.session.store = before.session.store)
      (hrequests : after.requests = before.requests) :
      Course updater cancelled now current before (.ok (.upToDate baseline)) after
  /-- It asks for the artifact and does not get it. -/
  | lost {manifest : Manifest} {version : Version} {error : UpdateError} {after : UpdateRun}
      (hnewer : updater.Newer current before.session.store manifest version)
      (hstore : after.session.store = before.session.store)
      (hrequests : after.requests = before.requests ++ [manifest.url]) :
      Course updater cancelled now current before (.error error) after
  /-- It comes to install the artifact. -/
  | tried {manifest : Manifest} {version : Version} {artifact : Bytes} {after : UpdateRun}
      (outcome : Except UpdateError Path)
      (hrunning : ∀ wait, cancelled wait = false)
      (hnewer : updater.Newer current before.session.store manifest version)
      (hfetch : updater.source.fetch manifest = .ok artifact)
      (hinstalls : updater.Installs version artifact now before.session.store outcome
        after.session.store)
      (hrequests : after.requests = before.requests ++ [manifest.url]) :
      Course updater cancelled now current before (outcome.map (.installed version)) after

@[simp]
theorem store_note (run : UpdateRun) (e : LogEntry) :
    (note run e).session.store = run.session.store :=
  rfl

@[simp]
theorem requests_note (run : UpdateRun) (e : LogEntry) : (note run e).requests = run.requests :=
  rfl

@[simp]
theorem store_announce (notes : Option String) (path : Path) (size : Nat) (run : UpdateRun) :
    (announce version notes path size run).session.store = run.session.store := by
  cases notes <;> rfl

@[simp]
theorem requests_announce (notes : Option String) (path : Path) (size : Nat) (run : UpdateRun) :
    (announce version notes path size run).requests = run.requests := by
  cases notes <;> rfl

variable {cancelled : Wait → Bool} {now current : String} {before run : UpdateRun}
  {manifest : Manifest}

theorem course_download (hstart : cancelled .start = false) (hmanifest : cancelled .manifest = false)
    (hnewer : updater.Newer current before.session.store manifest version)
    (hstore : run.session.store = before.session.store) (hrequests : run.requests = before.requests) :
    Course updater cancelled now current before
      (updater.download cancelled now manifest version run).1
      (updater.download cancelled now manifest version run).2 := by
  have hasked : run.requests ++ [manifest.url] = before.requests ++ [manifest.url] :=
    congrArg (· ++ [manifest.url]) hrequests
  unfold download
  simp only
  split_ifs with hartifact
  · exact .lost hnewer hstore hasked
  · have hrunning : ∀ wait, cancelled wait = false := by
      intro wait
      cases wait with
      | start => exact hstart
      | manifest => exact hmanifest
      | artifact => exact (Bool.not_eq_true _).mp hartifact
    split
    · exact .lost hnewer hstore hasked
    · rename_i artifact hfetch
      have hinstalls := installs_install updater version artifact now run.session.store
      rw [hstore] at hinstalls ⊢
      split
      · rename_i heq
        rw [heq] at hinstalls
        exact .tried (.error _) hrunning hnewer hfetch hinstalls hasked
      · rename_i path after heq
        rw [heq] at hinstalls
        refine .tried (.ok path) hrunning hnewer hfetch ?_ ?_
        · rw [store_announce]
          exact hinstalls
        · rw [requests_announce]
          exact hasked

theorem course_consider {baseline : Version} (hstart : cancelled .start = false)
    (hmanifest : cancelled .manifest = false) (hlatest : updater.source.latest = .ok manifest)
    (hbaseline : updater.baseline current run.session.store = .ok baseline) :
    Course updater cancelled now current run
      (updater.consider cancelled now baseline manifest run).1
      (updater.consider cancelled now baseline manifest run).2 := by
  unfold consider
  split
  · exact .early rfl rfl
  · rename_i latest hparse
    simp only
    split_ifs with hle
    · exact .upToDate hlatest (readVersion_eq_ok.mp hparse) hbaseline hle rfl rfl
    · refine course_download hstart hmanifest ⟨hlatest, readVersion_eq_ok.mp hparse, baseline,
        hbaseline, ?_⟩ rfl rfl
      exact Version.not_le.mp ((Bool.not_eq_true _).mp hle)

/-- An update takes one of four courses. -/
theorem course_update (updater : Updater) (cancelled : Wait → Bool) (now current : String)
    (run : UpdateRun) :
    Course updater cancelled now current run (updater.update cancelled now current run).1
      (updater.update cancelled now current run).2 := by
  unfold update
  split
  · exact .early rfl rfl
  · rename_i hstart
    split
    · exact .early rfl rfl
    · rename_i baseline hbaseline
      split
      · exact .early rfl rfl
      · rename_i hmanifest
        split
        · exact .early rfl rfl
        · rename_i manifest hlatest
          exact course_consider ((Bool.not_eq_true _).mp hstart) ((Bool.not_eq_true _).mp hmanifest)
            hlatest hbaseline

end Updater

end Vitae
