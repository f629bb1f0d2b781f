import Vitae.Proofs.Release.Install

/-!
# Updates Only Move Forward

One folder sees any number of updates, each with its own source of releases and its own
version that is running. Whatever they are and however they end, the version on record
never goes back (`le_installedVersion_call` for one update, and by induction for all).

What makes this true is that a record is read back as the version it was written for,
so that the baseline of the next update is at least what the last one has installed. An
update that succeeded has therefore nothing to do when it is made again.

## Main definitions

* `UpdateCall`: What an update is called with.
* `Updater.call`, `Updater.calls`: One update, and any number of them in a row.
* `Updater.Exceeds`: A manifest with a version that exceeds the running and the recorded one.
* `Updater.Succeeds`: What a successful update does.
* `Updater.MovesForward`: What any number of updates do.

## Theorems

* `Updater.installedVersion_recorded`: The record of an installation is read back.
* `Updater.le_installedVersion_call`: One update does not take the version back.
* `Updater.update_of_le`: There is nothing to do for a release that does not exceed the baseline.
* `Updater.succeeds_call`: What a successful update does.
* `Updater.movesForward_calls`: Updates only move forward.
-/

namespace Vitae

/-- What an update is called with. -/
structure UpdateCall where
  source : ReleaseSource
  cancelled : Wait → Bool
  now : String
  current : String

namespace Updater

/-- One update from a source of its own. -/
def call (updater : Updater) (call : UpdateCall) (run : UpdateRun) :
    Except UpdateError UpdateStatus × UpdateRun :=
  ({ updater with source := call.source } : Updater).update call.cancelled call.now call.current run

/-- The state after a number of updates in a row. -/
def calls (updater : Updater) (made : List UpdateCall) (run : UpdateRun) : UpdateRun :=
  made.foldl (fun run call => (updater.call call run).2) run

/-- The course of one update from a source of its own. -/
theorem course_call (updater : Updater) (call : UpdateCall) (run : UpdateRun) :
    Course { updater with source := call.source } call.cancelled call.now call.current run
      (updater.call call run).1 (updater.call call run).2 :=
  course_update _ call.cancelled call.now call.current run

variable {updater : Updater} {version : Version} {store before after : Store} {now : String}

/-! ### The record -/

theorem installedVersion_eq_some :
    updater.installedVersion store = .ok (some version) ↔
      ∃ contents record, store.read updater.recordPath = .ok contents ∧
        Installed.parse contents = .ok record ∧ Version.parse? record.version = some version := by
  unfold installedVersion
  constructor
  · intro h
    split at h
    · cases h
    · cases h
    · rename_i contents hread
      split at h
      · cases h
      · rename_i record hparse
        cases hversion : readVersion record.version with
        | error error =>
          rw [hversion] at h
          cases h
        | ok found =>
          rw [hversion] at h
          cases h
          exact ⟨contents, record, hread, hparse, readVersion_eq_ok.mp hversion⟩
  · rintro ⟨contents, record, hread, hparse, hversion⟩
    simp only [hread, hparse, readVersion_eq_ok.mpr hversion]
    rfl

/-- A record is only said to be absent if it is, unless reading is refused with just
these words. -/
theorem refuses_of_installedVersion {installed : Option Version}
    (hread : store.refuses (.read updater.recordPath) ≠ some .notThere)
    (h : updater.installedVersion store = .ok installed) :
    store.refuses (.read updater.recordPath) = none := by
  cases hrefuses : store.refuses (.read updater.recordPath) with
  | none => rfl
  | some refusal =>
    have herror : store.read updater.recordPath = .error refusal := by
      simp only [Store.read, Store.permit, hrefuses, bind, Except.bind]
    unfold installedVersion at h
    rw [herror] at h
    cases refusal with
    | notThere => exact absurd hrefuses hread
    | _ => cases h

/-- The record of a version whose moment is one is read back. -/
theorem read_recorded {text : String} {recordPlace : Place}
    (hrefuses : before.refuses (.read updater.recordPath) = none)
    (hmoment : checkTimestamp now = .ok ())
    (hrecord : Store.PutAt updater.recordPath
      (Utf8.encode (Installed.text ⟨version.text, text, now⟩)) recordPlace before after) :
    ∃ contents, after.read updater.recordPath = .ok contents ∧
      Installed.parse contents = .ok ⟨version.text, text, now⟩ :=
  ⟨_, Store.read_eq_ok.mpr ⟨hrecord.refuses ▸ hrefuses, recordPlace, hrecord.locate,
    .inl hrecord.node⟩, Installed.parse_text hmoment⟩

theorem installedVersion_recorded {text : String} {recordPlace : Place}
    (hrefuses : before.refuses (.read updater.recordPath) = none)
    (hmoment : checkTimestamp now = .ok ())
    (hrecord : Store.PutAt updater.recordPath
      (Utf8.encode (Installed.text ⟨version.text, text, now⟩)) recordPlace before after) :
    updater.installedVersion after = .ok (some version) := by
  obtain ⟨contents, hread, hparse⟩ := read_recorded hrefuses hmoment hrecord
  exact installedVersion_eq_some.mpr ⟨contents, _, hread, hparse, Version.parse?_text version⟩

/-! ### Failed installations -/

theorem Installs.refuses {artifact : Bytes} {result : Except UpdateError Path}
    (h : Installs updater version artifact now before result after) :
    after.refuses = before.refuses := by
  cases h with
  | folders _ hrefuses => exact hrefuses
  | unrecorded _ hrefuses hartifact => exact hartifact.refuses.trans hrefuses
  | recorded _ hrefuses hartifact _ hrecord =>
    exact hrecord.refuses.trans (hartifact.refuses.trans hrefuses)

/-- An installation that fails leaves the record as it was. -/
theorem Installs.read {artifact : Bytes} {error : UpdateError}
    (h : Installs updater version artifact now before (.error error) after) {contents : Bytes}
    (hread : before.read updater.recordPath = .ok contents) :
    after.read updater.recordPath = .ok contents := by
  cases h with
  | folders hgrows hrefuses => exact hgrows.read hrefuses hread
  | unrecorded hgrows hrefuses hartifact =>
    exact hartifact.read_of_ne
      (fun other hlocate => artifactPlace_ne hartifact.locate (getLast?_of_locate_record hlocate))
      (hgrows.read hrefuses hread)

/-! ### One update -/

variable {call : UpdateCall} {run : UpdateRun}

theorem refuses_call (updater : Updater) (call : UpdateCall) (run : UpdateRun) :
    (updater.call call run).2.session.store.refuses = run.session.store.refuses := by
  have hcourse := course_call updater call run
  generalize (updater.call call run).1 = result at hcourse
  cases hcourse with
  | early hstore _ => rw [hstore]
  | upToDate _ _ _ _ hstore _ => rw [hstore]
  | lost _ hstore _ => rw [hstore]
  | tried _ _ _ _ hinstalls _ => exact hinstalls.refuses

/-- A baseline is at least the version that is running and the one that was installed,
and it is one of them. -/
theorem baseline_spec {current : String} {baseline : Version}
    (h : updater.baseline current store = .ok baseline) :
    ∃ running installed, Version.parse? current = some running ∧
      updater.installedVersion store = .ok installed ∧ running.le baseline = true ∧
      (∀ v ∈ installed, v.le baseline = true) ∧ (baseline = running ∨ installed = some baseline) := by
  obtain ⟨running, installed, hrunning, hinstalled, rfl⟩ := baseline_eq_ok.mp h
  refine ⟨running, installed, hrunning, hinstalled, ?_⟩
  cases installed with
  | none => exact ⟨Version.le_refl running, fun v hv => absurd hv (Option.not_mem_none v), .inl rfl⟩
  | some v =>
    refine ⟨Version.le_max_right v running, ?_, ?_⟩
    · intro w hw
      cases hw
      exact Version.le_max_left v running
    · rcases Version.max_eq_or v running with heq | heq
      · exact .inr (congrArg some heq.symm)
      · exact .inl heq

/-- One update does not take the version on record back. -/
theorem le_installedVersion_call (hmoment : checkTimestamp call.now = .ok ())
    (h : updater.installedVersion run.session.store = .ok (some version)) :
    ∃ later, updater.installedVersion (updater.call call run).2.session.store = .ok (some later) ∧
      version.le later = true := by
  have hsame := Version.le_refl version
  obtain ⟨contents, record, hread, hparse, hversion⟩ := installedVersion_eq_some.mp h
  have hcourse := course_call updater call run
  generalize (updater.call call run).1 = result at hcourse
  cases hcourse with
  | early hstore _ => exact ⟨version, hstore ▸ h, hsame⟩
  | upToDate _ _ _ _ hstore _ => exact ⟨version, hstore ▸ h, hsame⟩
  | lost _ hstore _ => exact ⟨version, hstore ▸ h, hsame⟩
  | @tried _ latest _ _ outcome _ hnewer _ hinstalls _ =>
    cases outcome with
    | error error =>
      have hkept := hinstalls.read hread
      exact ⟨version, installedVersion_eq_some.mpr ⟨contents, record, hkept, hparse, hversion⟩, hsame⟩
    | ok path =>
      -- The version that was installed exceeds the one that was on record.
      obtain ⟨baseline, hbaseline, hlt⟩ := hnewer.exceeds
      obtain ⟨_, installed, _, hinstalled, _, hle, _⟩ := baseline_spec hbaseline
      cases hinstalled.symm.trans h
      cases hinstalls with
      | recorded hgrows hrefuses hartifact _ hrecord =>
        refine ⟨latest, installedVersion_recorded ?_ hmoment hrecord, ?_⟩
        · rw [hartifact.refuses, hrefuses]
          exact (Store.read_eq_ok.mp hread).1
        · exact Version.le_of_lt (Version.lt_of_le_of_lt (hle version rfl) hlt)

/-- There is nothing to do for a release that does not exceed the baseline. -/
theorem update_of_le (updater : Updater) (now : String) (run : UpdateRun)
    {cancelled : Wait → Bool} {current : String} {manifest : Manifest} {baseline : Version}
    (hrunning : ∀ wait, cancelled wait = false)
    (hbaseline : updater.baseline current run.session.store = .ok baseline)
    (hlatest : updater.source.latest = .ok manifest)
    (hparse : Version.parse? manifest.version = some version) (hle : version.le baseline = true) :
    (updater.update cancelled now current run).1 = .ok (.upToDate baseline) ∧
      (updater.update cancelled now current run).2.requests = run.requests := by
  unfold update consider
  simp only [hrunning, hbaseline, hlatest, readVersion_eq_ok.mpr hparse, hle, if_true,
    Bool.false_eq_true, if_false, requests_note, and_self]

/-- A manifest with a version that exceeds the running and the recorded one. -/
structure Exceeds (updater : Updater) (call : UpdateCall) (store : Store) (manifest : Manifest)
    (version : Version) : Prop where
  latest : call.source.latest = .ok manifest
  parse : Version.parse? manifest.version = some version
  running : ∃ running, Version.parse? call.current = some running ∧ running.lt version = true
  recorded : ∃ installed, updater.installedVersion store = .ok installed ∧
    ∀ v ∈ installed, v.lt version = true

/-- A version that exceeds the baseline exceeds both of the versions it is made of. -/
theorem exceeds_of_newer {manifest : Manifest}
    (h : Newer { updater with source := call.source } call.current store manifest version) :
    updater.Exceeds call store manifest version := by
  obtain ⟨baseline, hbaseline, hlt⟩ := h.exceeds
  obtain ⟨running, installed, hrunning, hinstalled, hle, hles, -⟩ := baseline_spec hbaseline
  exact ⟨h.latest, h.parse, ⟨running, hrunning, Version.lt_of_le_of_lt hle hlt⟩,
    ⟨installed, hinstalled, fun v hv => Version.lt_of_le_of_lt (hles v hv) hlt⟩⟩

/-- What a successful update does. -/
structure Succeeds (updater : Updater) (call : UpdateCall) (before : UpdateRun)
    (status : UpdateStatus) (after : UpdateRun) : Prop where
  /-- It installs something exactly if the latest release exceeds both versions. -/
  installed_iff : (∃ version path, status = .installed version path) ↔
    ∃ manifest version, updater.Exceeds call before.session.store manifest version
  /-- What it installs is the latest release: the artifact is there as it was fetched, and
  the record tells its version and its path. -/
  installed : ∀ version path, status = .installed version path →
    updater.installedVersion after.session.store = .ok (some version) ∧
      ∃ manifest artifact place contents record,
        updater.Exceeds call before.session.store manifest version ∧
        call.source.fetch manifest = .ok artifact ∧
        after.session.store.locate path = .ok place ∧
        after.session.store.node? place = some (.file artifact) ∧
        after.session.store.read updater.recordPath = .ok contents ∧
        Installed.parse contents = .ok record ∧ Path.ofText record.artifact = path
  /-- If there is nothing to install, it tells the later of the two versions. -/
  upToDate : ∀ version, status = .upToDate version →
    after.session.store = before.session.store ∧ after.requests = before.requests ∧
      ∃ running installed, Version.parse? call.current = some running ∧
        updater.installedVersion before.session.store = .ok installed ∧
        running.le version = true ∧ (∀ v ∈ installed, v.le version = true) ∧
        (version = running ∨ installed = some version)
  /-- There is nothing to do when it is made again. -/
  again : ∀ second : UpdateCall, second.current = call.current →
    second.source.latest = call.source.latest → (∀ wait, second.cancelled wait = false) →
      (∃ version, (updater.call second after).1 = .ok (.upToDate version)) ∧
        (updater.call second after).2.requests = after.requests

/-- An update that finds nothing newer. -/
theorem succeeds_upToDate {after : UpdateRun} {manifest : Manifest} {baseline : Version}
    (hlatest : call.source.latest = .ok manifest)
    (hparse : Version.parse? manifest.version = some version)
    (hbaseline : updater.baseline call.current run.session.store = .ok baseline)
    (hle : version.le baseline = true) (hstore : after.session.store = run.session.store)
    (hrequests : after.requests = run.requests) :
    updater.Succeeds call run (.upToDate baseline) after where
  installed_iff := by
    constructor
    · rintro ⟨_, _, h⟩
      cases h
    · rintro ⟨_, _, hexceeds⟩
      cases hexceeds.latest.symm.trans hlatest
      cases hexceeds.parse.symm.trans hparse
      obtain ⟨running, installed, hrunning, hinstalled, -, -, heq⟩ := baseline_spec hbaseline
      have hlt : baseline.lt version = true := by
        rcases heq with rfl | rfl
        · obtain ⟨_, hsame, hlt⟩ := hexceeds.running
          cases hsame.symm.trans hrunning
          exact hlt
        · obtain ⟨_, hsame, hlt⟩ := hexceeds.recorded
          cases hsame.symm.trans hinstalled
          exact hlt baseline rfl
      rw [Version.not_le.mpr hlt] at hle
      cases hle
  installed := fun _ _ h => by cases h
  upToDate := by
    intro _ h
    cases h
    exact ⟨hstore, hrequests, baseline_spec hbaseline⟩
  again := by
    intro second hcurrent hsource hrunning
    have hbaselineAgain : Updater.baseline { updater with source := second.source } second.current
        after.session.store = .ok baseline := by
      rw [hcurrent, hstore]
      exact hbaseline
    have hagain := update_of_le { updater with source := second.source } second.now after hrunning
      hbaselineAgain (hsource.trans hlatest) hparse hle
    exact ⟨⟨baseline, hagain.1⟩, hagain.2⟩

/-- An update that installs a release. -/
theorem succeeds_installed {after : UpdateRun} {manifest : Manifest} {artifact : Bytes} {path : Path}
    (hmoment : checkTimestamp call.now = .ok ())
    (hread : run.session.store.refuses (.read updater.recordPath) ≠ some .notThere)
    (hnewer : Newer { updater with source := call.source } call.current run.session.store manifest
      version)
    (hfetch : call.source.fetch manifest = .ok artifact)
    (hinstalls : Installs { updater with source := call.source } version artifact call.now
      run.session.store (.ok path) after.session.store) :
    updater.Succeeds call run (.installed version path) after := by
  have hexceeds := exceeds_of_newer hnewer
  obtain ⟨installed, hinstalled, -⟩ := hexceeds.recorded
  obtain ⟨running, hparsed, hrunning⟩ := hexceeds.running
  cases hinstalls with
  | @recorded middle written _ place recordPlace text hgrows hrefuses hartifact htext hrecord =>
    have hpermit : written.refuses (.read updater.recordPath) = none := by
      rw [hartifact.refuses, hrefuses]
      exact refuses_of_installedVersion hread hinstalled
    have hversion : updater.installedVersion after.session.store = .ok (some version) :=
      installedVersion_recorded hpermit hmoment hrecord
    obtain ⟨contents, hcontents, hparse⟩ := read_recorded hpermit hmoment hrecord
    -- The record has not been put in the place of the artifact.
    have hne : place ≠ recordPlace :=
      Ne.symm (artifactPlace_ne hartifact.locate (getLast?_of_locate_record hrecord.locate))
    have hnode := (hrecord.other hne).trans hartifact.node
    have hlocate : after.session.store.locate
        (Updater.artifactPath { updater with source := call.source } version) = .ok place :=
      Store.locate_of_isSome hrecord.keepsFolders hrecord.start hartifact.locate
        (hnode ▸ rfl)
    refine ⟨?_, ?_, ?_, ?_⟩
    · exact ⟨fun _ => ⟨manifest, version, hexceeds⟩, fun _ => ⟨version, _, rfl⟩⟩
    · intro _ _ h
      cases h
      refine ⟨hversion, manifest, artifact, place, contents, _, hexceeds, hfetch, hlocate, hnode,
        hcontents, hparse, ?_⟩
      rw [Path.ofText, ← htext]
    · intro _ h
      cases h
    · intro second hcurrent hsource hrunningAgain
      have hbaseline : Updater.baseline { updater with source := second.source } second.current
          after.session.store = .ok (version.max running) :=
        baseline_eq_ok.mpr ⟨running, some version, hcurrent ▸ hparsed, hversion, rfl⟩
      have hagain := update_of_le { updater with source := second.source } second.now after
        hrunningAgain hbaseline (hsource.trans hexceeds.latest) hexceeds.parse
        (Version.le_max_left version running)
      exact ⟨⟨_, hagain.1⟩, hagain.2⟩

theorem succeeds_call (hmoment : checkTimestamp call.now = .ok ())
    (hread : run.session.store.refuses (.read updater.recordPath) ≠ some .notThere)
    {status : UpdateStatus} (h : (updater.call call run).1 = .ok status) :
    updater.Succeeds call run status (updater.call call run).2 := by
  have hcourse := course_call updater call run
  rw [h] at hcourse
  generalize (updater.call call run).2 = after at hcourse ⊢
  generalize hresult : Except.ok status = result at hcourse
  cases hcourse with
  | early _ _ => cases hresult
  | upToDate hlatest hparse hbaseline hle hstore hrequests =>
    cases hresult
    exact succeeds_upToDate hlatest hparse hbaseline hle hstore hrequests
  | lost _ _ _ => cases hresult
  | tried outcome _ hnewer hfetch hinstalls _ =>
    cases outcome with
    | error _ => cases hresult
    | ok path =>
      cases hresult
      exact succeeds_installed hmoment hread hnewer hfetch hinstalls

/-! ### Any number of updates -/

/-- What any number of updates do. -/
structure MovesForward (updater : Updater) (run : UpdateRun) (made : List UpdateCall) : Prop where
  /-- The version on record never decreases. -/
  forward : ∀ earlier later rest version, made = earlier ++ later ++ rest →
    updater.installedVersion (updater.calls earlier run).session.store = .ok (some version) →
    ∃ version', updater.installedVersion (updater.calls (earlier ++ later) run).session.store =
        .ok (some version') ∧ version.le version' = true
  /-- Every update that succeeds does what it should. -/
  succeeds : ∀ earlier call rest status, made = earlier ++ call :: rest →
    (updater.call call (updater.calls earlier run)).1 = .ok status →
    updater.Succeeds call (updater.calls earlier run) status
      (updater.call call (updater.calls earlier run)).2

theorem refuses_calls (updater : Updater) (made : List UpdateCall) (run : UpdateRun) :
    (updater.calls made run).session.store.refuses = run.session.store.refuses := by
  induction made generalizing run with
  | nil => rfl
  | cons call made ih => exact (ih (updater.call call run).2).trans (refuses_call updater call run)

theorem le_installedVersion_calls {made : List UpdateCall}
    (hmoments : ∀ call ∈ made, checkTimestamp call.now = .ok ())
    (h : updater.installedVersion run.session.store = .ok (some version)) :
    ∃ later, updater.installedVersion (updater.calls made run).session.store = .ok (some later) ∧
      version.le later = true := by
  induction made generalizing run version with
  | nil => exact ⟨version, h, Version.le_refl version⟩
  | cons call made ih =>
    obtain ⟨next, hnext, hle⟩ := le_installedVersion_call (hmoments call List.mem_cons_self) h
    obtain ⟨last, hlast, hle'⟩ := ih (fun other hother =>
      hmoments other (List.mem_cons_of_mem _ hother)) hnext
    exact ⟨last, hlast, Version.le_trans hle hle'⟩

/-- Updates only move forward, whatever their sources and however they end, if each is
made at a moment that is one, and an absent record is told apart from one that cannot be
read. -/
theorem movesForward_calls (updater : Updater) (run : UpdateRun) (made : List UpdateCall)
    (hmoments : ∀ call ∈ made, checkTimestamp call.now = .ok ())
    (hread : run.session.store.refuses (.read updater.recordPath) ≠ some .notThere) :
    updater.MovesForward run made := by
  refine ⟨?_, ?_⟩
  · rintro earlier later rest version rfl h
    have happend : updater.calls (earlier ++ later) run =
        updater.calls later (updater.calls earlier run) := List.foldl_append
    rw [happend]
    exact le_installedVersion_calls (fun call hcall =>
      hmoments call (List.mem_append_left _ (List.mem_append_right _ hcall))) h
  · rintro earlier call rest status rfl h
    refine succeeds_call (hmoments call (List.mem_append_right _ List.mem_cons_self)) ?_ h
    rw [refuses_calls]
    exact hread

/-- A call for a source with one release, by a program of version 0.4.0. -/
def sampleCall (version : String) (artifact : Bytes) : UpdateCall where
  source := ⟨.ok ⟨version, "backend", none⟩, fun _ => .ok artifact⟩
  cancelled := fun _ => false
  now := "2024-05-01T12:00:00Z"
  current := "0.4.0"

/-- An updater for the folder `lib` of an empty file system. -/
def sampleUpdater : Updater := ⟨(sampleCall "0.5.0" []).source, Path.ofText "lib"⟩

def sampleRun : UpdateRun := ⟨.start ⟨[([], .folder)], [], [], fun _ => none⟩, []⟩

/-- An update installs version 0.5.0, and one to an earlier version changes nothing. -/
theorem movesForward_calls_sample :
    (∀ call ∈ [sampleCall "0.5.0" [1, 2, 3], sampleCall "0.4.9" [4]],
      checkTimestamp call.now = .ok ()) ∧
    sampleRun.session.store.refuses (.read sampleUpdater.recordPath) ≠ some .notThere ∧
    (sampleUpdater.call (sampleCall "0.5.0" [1, 2, 3]) sampleRun).1 =
      .ok (.installed ⟨0, 5, 0⟩ (Path.ofText "lib/json2pdf-backend-0.5.0")) ∧
    sampleUpdater.MovesForward sampleRun [sampleCall "0.5.0" [1, 2, 3], sampleCall "0.4.9" [4]] := by
  have hmoments : ∀ call ∈ [sampleCall "0.5.0" [1, 2, 3], sampleCall "0.4.9" [4]],
      checkTimestamp call.now = .ok () := by
    intro call hcall
    simp only [List.mem_cons, List.not_mem_nil, or_false] at hcall
    rcases hcall with rfl | rfl <;> rfl
  have hread : sampleRun.session.store.refuses (.read sampleUpdater.recordPath) ≠ some .notThere :=
    fun h => by cases h
  exact ⟨hmoments, hread, rfl, movesForward_calls sampleUpdater sampleRun _ hmoments hread⟩

end Updater

end Vitae
