import Vitae.Proofs.Release.Forward

/-!
# Failed Updates Do No Harm

An update can fail in many ways, and it can be interrupted while it waits. If it fails
before it has something to install it leaves everything as it was. If installing fails,
the artifact may be there, all of it, together with the folders it needed, but the record
is what it was.

One thing is not ruled out. Missing folders are made wherever the path of the folder
runs through, even at the place of the record, where they then stay
(`folder_at_record`). A file is never lost or changed that way.

## Main definitions

* `Updater.FailsEarly`: Why an update can fail before it installs anything.
* `Updater.Unharmed`: What a failed update leaves as it was.

## Theorems

* `Updater.grows_putAt`: What making folders and replacing a file leave elsewhere.
* `Updater.unharmed_update`: A failed update does no harm.
-/

namespace Vitae

namespace Updater

/-- Why an update can fail before it installs anything. -/
inductive FailsEarly (updater : Updater) (cancelled : Wait → Bool) (current : String)
    (store : Store) : Prop
  | interrupted (wait : Wait) (h : cancelled wait = true)
  | current (h : Version.parse? current = none)
  | record (error : UpdateError) (h : updater.installedVersion store = .error error)
  | manifest (error : UpdateError) (h : updater.source.latest = .error error)
  | version (manifest : Manifest) (h : updater.source.latest = .ok manifest)
    (hversion : Version.parse? manifest.version = none)
  | artifact (manifest : Manifest) (error : UpdateError) (h : updater.source.latest = .ok manifest)
    (hfetch : updater.source.fetch manifest = .error error)

/-- What a failed update leaves as it was, and what it may add. -/
structure Unharmed (updater : Updater) (cancelled : Wait → Bool) (current : String)
    (before after : UpdateRun) : Prop where
  /-- A record that could be read is read as before. -/
  record : ∀ contents, before.session.store.read updater.recordPath = .ok contents →
    after.session.store.read updater.recordPath = .ok contents
  /-- Wherever a record could be, there is what was there before. Only where nothing was
  there can be a folder now, if it is on the way to the folder of the updater. -/
  places : ∀ place : Place, place.getLast? = some (Utf8.encode recordName) →
    after.session.store.node? place = before.session.store.node? place ∨
      Store.Made updater.folder before.session.store after.session.store place
  /-- Nothing at all changes if the update fails before it installs anything. -/
  early : updater.FailsEarly cancelled current before.session.store →
    after.session.store = before.session.store
  /-- The artifact is not asked for unless it is newer. -/
  requests : after.requests = before.requests ∨ ∃ manifest version,
    updater.Newer current before.session.store manifest version ∧
      after.requests = before.requests ++ [manifest.url]
  /-- All that is added are folders and the whole artifact of the newer version. -/
  additions : Store.Grows updater.folder before.session.store after.session.store ∨
    ∃ manifest version artifact middle place,
      updater.Newer current before.session.store manifest version ∧
      updater.source.fetch manifest = .ok artifact ∧
      Store.Grows updater.folder before.session.store middle ∧
      Store.PutAt (updater.artifactPath version) artifact place middle after.session.store

variable {updater : Updater} {cancelled : Wait → Bool} {now current : String}
  {before after : UpdateRun} {manifest : Manifest} {version : Version} {artifact : Bytes}

/-- What comes to be installed has not failed early. -/
theorem not_failsEarly {store : Store} (hrunning : ∀ wait, cancelled wait = false)
    (hnewer : updater.Newer current store manifest version)
    (hfetch : updater.source.fetch manifest = .ok artifact) :
    ¬updater.FailsEarly cancelled current store := by
  obtain ⟨baseline, hbaseline, -⟩ := hnewer.exceeds
  obtain ⟨_, _, hcurrent, hinstalled, -⟩ := baseline_eq_ok.mp hbaseline
  rintro (⟨wait, h⟩ | h | ⟨_, h⟩ | ⟨_, h⟩ | ⟨_, h, hversion⟩ | ⟨_, _, h, herror⟩)
  · rw [hrunning wait] at h
    cases h
  · rw [hcurrent] at h
    cases h
  · rw [hinstalled] at h
    cases h
  · rw [hnewer.latest] at h
    cases h
  · cases h.symm.trans hnewer.latest
    rw [hnewer.parse] at hversion
    cases hversion
  · cases h.symm.trans hnewer.latest
    rw [hfetch] at herror
    cases herror

/-- What making folders and replacing a file leave elsewhere. -/
theorem grows_putAt {path folder : Path} {first middle last : Store} {place : Place}
    (hgrows : Store.Grows folder first middle)
    (hput : Store.PutAt path artifact place middle last) {other : Place} (hother : other ≠ place) :
    last.node? other = first.node? other ∨ Store.Made folder first last other := by
  rcases hgrows.node other with heq | hmade
  · exact .inl ((hput.other hother).trans heq)
  · exact .inr (hmade.of_keepsFolders hput.keepsFolders hput.start)

/-- An update that has changed no files. -/
theorem unharmed_of_store_eq (hstore : after.session.store = before.session.store)
    (hrequests : after.requests = before.requests ∨ ∃ manifest version,
      updater.Newer current before.session.store manifest version ∧
        after.requests = before.requests ++ [manifest.url]) :
    updater.Unharmed cancelled current before after where
  record := fun _ h => hstore ▸ h
  places := fun _ _ => .inl (by rw [hstore])
  early := fun _ => hstore
  requests := hrequests
  additions := .inl (hstore ▸ .refl _ _)

/-- An update that has failed to install a release. -/
theorem unharmed_of_installs {error : UpdateError} (hrunning : ∀ wait, cancelled wait = false)
    (hnewer : updater.Newer current before.session.store manifest version)
    (hfetch : updater.source.fetch manifest = .ok artifact)
    (hinstalls : updater.Installs version artifact now before.session.store (.error error)
      after.session.store)
    (hrequests : after.requests = before.requests ++ [manifest.url]) :
    updater.Unharmed cancelled current before after where
  record := fun _ h => hinstalls.read h
  places := by
    intro place hplace
    cases hinstalls with
    | folders hgrows _ => exact hgrows.node place
    | unrecorded hgrows _ hartifact =>
      exact grows_putAt hgrows hartifact (artifactPlace_ne hartifact.locate hplace)
  early := fun hearly => absurd hearly (not_failsEarly hrunning hnewer hfetch)
  requests := .inr ⟨manifest, version, hnewer, hrequests⟩
  additions := by
    cases hinstalls with
    | folders hgrows _ => exact .inl hgrows
    | unrecorded hgrows _ hartifact =>
      exact .inr ⟨manifest, version, artifact, _, _, hnewer, hfetch, hgrows, hartifact⟩

/-- A failed update does no harm: the record is what it was, nothing changes before there
is something to install, and all that can be added are folders and the whole artifact. -/
theorem unharmed_update (updater : Updater) (cancelled : Wait → Bool) (now current : String)
    (run : UpdateRun) (error : UpdateError)
    (h : (updater.update cancelled now current run).1 = .error error) :
    updater.Unharmed cancelled current run (updater.update cancelled now current run).2 := by
  have hcourse := course_update updater cancelled now current run
  rw [h] at hcourse
  generalize (updater.update cancelled now current run).2 = after at hcourse ⊢
  generalize hresult : Except.error error = result at hcourse
  cases hcourse with
  | early hstore hrequests => exact unharmed_of_store_eq hstore (.inl hrequests)
  | upToDate _ _ _ _ _ _ => cases hresult
  | lost hnewer hstore hrequests =>
    exact unharmed_of_store_eq hstore (.inr ⟨_, _, hnewer, hrequests⟩)
  | tried outcome hrunning hnewer hfetch hinstalls hrequests =>
    cases outcome with
    | error _ => exact unharmed_of_installs hrunning hnewer hfetch hinstalls hrequests
    | ok _ => cases hresult

/-- A file system in which no record can be put in place. -/
def fullRun : UpdateRun where
  session := .start ⟨[([], .folder)], [], [], fun access =>
    if access = .publish sampleUpdater.recordPath then some (.other "disk full") else none⟩
  requests := []

/-- The artifact is in place when the record is refused, and the update has failed. -/
theorem unharmed_update_full :
    (sampleUpdater.update (fun _ => false) "2024-05-01T12:00:00Z" "0.4.0" fullRun).1 =
      .error (.refused (.other "disk full")) ∧
    sampleUpdater.Unharmed (fun _ => false) "0.4.0" fullRun
      (sampleUpdater.update (fun _ => false) "2024-05-01T12:00:00Z" "0.4.0" fullRun).2 :=
  ⟨rfl, unharmed_update sampleUpdater (fun _ => false) "2024-05-01T12:00:00Z" "0.4.0" fullRun
    (.refused (.other "disk full")) rfl⟩

/-- An updater for a folder whose path runs through the place of the record. -/
def crossingUpdater : Updater := { sampleUpdater with folder := Path.ofText "installed.json/.." }

/-- The update fails, and where no record was there is a folder now. -/
theorem folder_at_record :
    (crossingUpdater.update (fun _ => false) "2024-05-01T12:00:00Z" "0.4.0" sampleRun).1 =
      .error (.refused .isAFolder) ∧
    sampleRun.session.store.inspect crossingUpdater.recordPath = .error .notThere ∧
    (crossingUpdater.update (fun _ => false) "2024-05-01T12:00:00Z" "0.4.0"
      sampleRun).2.session.store.inspect crossingUpdater.recordPath = .ok .folder :=
  ⟨rfl, rfl, rfl⟩

end Updater

end Vitae
