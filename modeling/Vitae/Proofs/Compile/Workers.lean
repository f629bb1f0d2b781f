import Mathlib.Logic.Function.Basic
import Vitae.Proofs.Compile.Dispatch
import Vitae.Proofs.Compile.Process

/-!
# Workers Side by Side

The workers of a batch share the files, the log and the requests to stop, and any of them
can have the next turn. A turn is one step of what the worker has to do. Only its drafts
are its own: they are files without a name, so no one else can find them.

Which worker has a turn when is a list of turns. Any list is allowed, so what holds for
all of them holds however the workers are scheduled, and for any limit on how many of
them run at once.

An action on the files is one step here, even where the system takes several, as when it
makes one folder after another. A request to stop is not missed by that: it is noticed
only when someone asks, and whoever asks has a step of its own for it.

## Main definitions

* `Worker`: A unit under way and what is still to be done for it.
* `Worker.step`: A turn of a worker.
* `Crew`: The workers of a batch.
* `Crew.take`: The crew after some turns.
* `Crew.results`: What is on record.
* `Config.pendingFor`: The unit under way for a kind of document.
* `Config.crew`: The crew for the documents of a configuration.

## Theorems

* `Crew.take_induction`: What every turn preserves.
* `Crew.get?_results`: What is on record about a kind of document.
* `Config.pendingFor_of_resolves`, `Config.recorded_of_rejected`: What becomes of a unit
  when it is submitted.
-/

namespace Vitae

/-- A store with other drafts. -/
def Store.withDrafts (store : Store) (drafts : List Draft) : Store :=
  { store with drafts := drafts }

/-- A session with other drafts. -/
def Session.withDrafts (session : Session) (drafts : List Draft) : Session :=
  { session with store := session.store.withDrafts drafts }

/-- A unit under way and what is still to be done for it. -/
structure Worker where
  pending : Pending
  process : Process Report
  /-- The drafts that were begun for the unit. -/
  drafts : List Draft
  /-- What the worker was told when it asked whether to stop, in order. -/
  answers : List Bool

namespace Worker

/-- A worker that has not had a turn. -/
def start (procedure : Procedure) (elapsed : Kind → Nat) (pending : Pending) : Worker :=
  ⟨pending, procedure.worker elapsed pending, [], []⟩

/-- The report on the unit, once there is one. -/
def report? (worker : Worker) : Option Report :=
  match worker.process with
  | .done report => some report
  | _ => none

/-- A turn of a worker. One that is done lets it pass. -/
def step (worker : Worker) (session : Session) : Worker × Session :=
  match worker.process with
  | .done _ => (worker, session)
  | .ask next =>
    let answer := session.answer (Batch.contextOf worker.pending) 0
    ({ worker with process := next answer, answers := worker.answers ++ [answer] }, session.polled)
  | .act effect next =>
    let seen := session.withDrafts worker.drafts
    let after := Process.acted seen effect
    ({ worker with process := next seen.store, drafts := after.store.drafts },
      after.withDrafts session.store.drafts)

theorem pending_step (worker : Worker) (session : Session) :
    (worker.step session).1.pending = worker.pending := by
  unfold step
  split <;> rfl

end Worker

/-- The workers of a batch, one for each kind of document at most. -/
structure Crew where
  /-- What was on record when the workers began. -/
  recorded : Results
  workers : Kind → Option Worker
  session : Session

namespace Crew

variable {crew : Crew} {kind : Kind} {worker : Worker}

/-- The crew after a turn of the worker on a kind of document, if there is one. -/
def turn (crew : Crew) (kind : Kind) : Crew :=
  match crew.workers kind with
  | none => crew
  | some worker =>
    { crew with
      workers := Function.update crew.workers kind (some (worker.step crew.session).1)
      session := (worker.step crew.session).2 }

/-- The crew after some turns. -/
def take (crew : Crew) (turns : List Kind) : Crew :=
  turns.foldl turn crew

/-- What is on record: first what was there before, then the reports of the workers. -/
def results (crew : Crew) : Results :=
  crew.recorded.recordEach (fun kind => (crew.workers kind).bind Worker.report?) Kind.all

/-- A crew of workers who have all reported. -/
def Finished (crew : Crew) : Prop :=
  ∀ kind worker, crew.workers kind = some worker → worker.report?.isSome = true

theorem take_cons (crew : Crew) (kind : Kind) (turns : List Kind) :
    crew.take (kind :: turns) = (crew.turn kind).take turns :=
  rfl

theorem take_append (crew : Crew) (turns more : List Kind) :
    crew.take (turns ++ more) = (crew.take turns).take more :=
  List.foldl_append

theorem turn_of_none (h : crew.workers kind = none) : crew.turn kind = crew := by
  unfold turn
  rw [h]

theorem turn_of_some (h : crew.workers kind = some worker) :
    crew.turn kind =
      { crew with
        workers := Function.update crew.workers kind (some (worker.step crew.session).1)
        session := (worker.step crew.session).2 } := by
  unfold turn
  rw [h]

/-- A turn is a step of the worker who has it, and the others are left alone. -/
theorem workers_turn (h : crew.workers kind = some worker) (other : Kind) :
    (crew.turn kind).workers other =
      if other = kind then some (worker.step crew.session).1 else crew.workers other := by
  rw [turn_of_some h]
  exact Function.update_apply ..

theorem worker_turn (h : crew.workers kind = some worker) :
    (crew.turn kind).workers kind = some (worker.step crew.session).1 := by
  rw [workers_turn h, if_pos rfl]

/-- What every turn preserves is there after any turns. -/
theorem take_induction {P : Crew → Prop} (hturn : ∀ crew kind, P crew → P (crew.turn kind))
    (crew : Crew) (turns : List Kind) (h : P crew) : P (crew.take turns) := by
  induction turns generalizing crew with
  | nil => exact h
  | cons kind rest ih => exact ih (crew.turn kind) (hturn crew kind h)

theorem recorded_take (crew : Crew) (turns : List Kind) :
    (crew.take turns).recorded = crew.recorded := by
  refine take_induction (P := fun after => after.recorded = crew.recorded) ?_ crew turns rfl
  intro after kind h
  unfold turn
  split <;> exact h

theorem workers_take_of_none (h : crew.workers kind = none) (turns : List Kind) :
    (crew.take turns).workers kind = none := by
  refine take_induction (P := fun after => after.workers kind = none) ?_ crew turns h
  intro after other hnone
  cases hworker : after.workers other with
  | none => rwa [turn_of_none hworker]
  | some worker =>
    -- Someone who is not there has no turn.
    rw [workers_turn hworker, if_neg]
    · exact hnone
    · rintro rfl
      rw [hworker] at hnone
      cases hnone

/-- The workers report on the documents they work on. -/
def ReportsOwn (crew : Crew) : Prop :=
  ∀ kind worker report, crew.workers kind = some worker → worker.report? = some report →
    report.kind = kind

/-- What is on record is what the worker has reported, or what was there before. -/
theorem get?_results (h : crew.ReportsOwn) (kind : Kind) :
    crew.results.get? kind =
      ((crew.workers kind).bind Worker.report?).or (crew.recorded.get? kind) := by
  have hkinds : ∀ other report, (crew.workers other).bind Worker.report? = some report →
      report.kind = other := by
    intro other report hreport
    obtain ⟨worker, hworker, hreport⟩ := Option.bind_eq_some_iff.mp hreport
    exact h other worker report hworker hreport
  cases hreport : (crew.workers kind).bind Worker.report? with
  | some report =>
    exact Results.get?_recordEach_of_mem id (fun other _ => hkinds other) (by decide)
      kind.mem_all hreport
  | none =>
    -- A report of this kind would be the one that is missing.
    refine Results.get?_recordEach_of_notMem fun other _ report hother hkind => ?_
    rw [← hkinds other report hother, hkind, hreport] at hother
    cases hother

end Crew

/-! ### The crew for a configuration -/

namespace Config

/-- The unit under way for a kind of document, if there is one. -/
def pendingFor (config : Config) (backend : Backend) (session : Session) (kind : Kind) :
    Option Pending :=
  (config.dispatch backend session).2.1.pending.find? fun p => p.unit.kind == kind

/-- The crew for the documents of a configuration, before anyone has had a turn. -/
def crew (config : Config) (procedure : Procedure) (session : Session) : Crew where
  recorded := (config.dispatch procedure.backend session).2.1.results
  workers kind :=
    (config.pendingFor procedure.backend session kind).map (.start procedure session.elapsed)
  session := (config.dispatch procedure.backend session).2.2

variable {config : Config} {backend : Backend} {session : Session}

theorem pendingFor_backend (config : Config) (backend other : Backend) (session : Session) :
    config.pendingFor other session = config.pendingFor backend session := by
  unfold pendingFor
  rw [dispatch_backend config backend other]

theorem mem_of_pendingFor {kind : Kind} {p : Pending}
    (h : config.pendingFor backend session kind = some p) :
    p ∈ (config.dispatch backend session).2.1.pending ∧ p.unit.kind = kind := by
  have hkind := List.find?_some h
  exact ⟨List.mem_of_find?_eq_some h, beq_iff_eq.mp hkind⟩

/-- Units under way are of different kinds, so each is found by its own. -/
theorem pendingFor_of_mem {p : Pending} (h : p ∈ (config.dispatch backend session).2.1.pending) :
    config.pendingFor backend session p.unit.kind = some p := by
  cases hfind : config.pendingFor backend session p.unit.kind with
  | none => exact absurd (beq_self_eq_true _) (List.find?_eq_none.mp hfind p h)
  | some q =>
    obtain ⟨hq, hkind⟩ := mem_of_pendingFor hfind
    rw [List.inj_on_of_nodup_map (nodup_kinds_pending config backend session) hq h hkind]

/-- A unit whose source can be read is under way. -/
theorem pendingFor_of_resolves {u : WorkUnit} (hu : u ∈ config.units)
    (h : u.Resolves session.store) :
    ∃ p, config.pendingFor backend session u.kind = some p ∧ p.unit = u := by
  obtain ⟨fresh, hpending, hunits, -⟩ :=
    (Batch.submitted_submit config.order (Batch.new backend) session).pending
  have hmem : u ∈ fresh.map Pending.unit := by
    rw [hunits]
    exact List.mem_filter.mpr ⟨hu, decide_eq_true h⟩
  obtain ⟨p, hp, rfl⟩ := List.mem_map.mp hmem
  have hp : p ∈ (config.dispatch backend session).2.1.pending := hpending ▸ hp
  exact ⟨p, pendingFor_of_mem hp, rfl⟩

/-- A unit whose source cannot be read is not under way. -/
theorem pendingFor_of_rejected {u : WorkUnit} {error : ConfigError} (hu : u ∈ config.units)
    (h : u.resolve session.store = .error error) :
    config.pendingFor backend session u.kind = none := by
  cases hfind : config.pendingFor backend session u.kind with
  | none => rfl
  | some p =>
    obtain ⟨hp, hkind⟩ := mem_of_pendingFor hfind
    obtain ⟨hunit, hresolves, -⟩ := mem_pending_dispatch hp
    rw [eq_of_mem_units hunit hu hkind, WorkUnit.Resolves, h] at hresolves
    cases hresolves

/-- A unit whose source cannot be read gets no worker. -/
theorem workers_of_rejected (procedure : Procedure) {u : WorkUnit} {error : ConfigError}
    (hu : u ∈ config.units) (h : u.resolve session.store = .error error) :
    (config.crew procedure session).workers u.kind = none :=
  Option.map_eq_none_iff.mpr (pendingFor_of_rejected hu h)

/-- The units whose sources cannot be read are on record from the beginning. -/
theorem recorded_crew (config : Config) (procedure : Procedure) (session : Session) :
    (config.crew procedure session).recorded =
      Results.empty.recordEach (WorkUnit.rejectionIn session.store) config.units :=
  (Batch.submitted_submit config.order (Batch.new procedure.backend) session).results

/-- A unit whose source cannot be read is on record instead. -/
theorem recorded_of_rejected (procedure : Procedure) {u : WorkUnit} {error : ConfigError}
    (hu : u ∈ config.units) (h : u.resolve session.store = .error error) :
    (config.crew procedure session).recorded.get? u.kind = some (u.rejection error) := by
  rw [recorded_crew]
  refine Results.get?_recordEach_of_mem WorkUnit.kind
    (fun _ _ _ => WorkUnit.kind_of_rejectionIn) config.nodup_units hu ?_
  rw [WorkUnit.rejectionIn, h]

/-- A unit whose source can be read is not on record. -/
theorem recorded_of_resolves (procedure : Procedure) {u : WorkUnit} (hu : u ∈ config.units)
    (h : u.Resolves session.store) :
    (config.crew procedure session).recorded.get? u.kind = none := by
  rw [recorded_crew, Results.get?_recordEach_of_notMem]
  · cases u.kind <;> rfl
  · intro v hv report hreport hkind
    rw [WorkUnit.kind_of_rejectionIn hreport] at hkind
    rw [eq_of_mem_units hv hu hkind, WorkUnit.rejectionIn, h] at hreport
    cases hreport

/-- Submitting changes nothing but the log. -/
theorem session_crew (config : Config) (procedure : Procedure) (session : Session) :
    ∃ entries, (config.crew procedure session).session = session.noteAll entries :=
  (Batch.submitted_submit config.order (Batch.new procedure.backend) session).session

/-- The files are as they were before the documents were submitted. -/
theorem store_crew (config : Config) (procedure : Procedure) (session : Session) :
    (config.crew procedure session).session.store = session.store := by
  obtain ⟨entries, hentries⟩ := session_crew config procedure session
  rw [hentries]
  rfl

end Config

end Vitae
