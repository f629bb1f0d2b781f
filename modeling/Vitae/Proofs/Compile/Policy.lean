import Vitae.Proofs.Compile.Orderly

/-!
# The Cancellation Policy

What a request to stop does to the workers of a batch, whenever it comes and however the
workers take turns.

A run that does not heed requests takes the same turns as one that no one asks to stop,
step by step. If there is a request before the first turn, each worker is done after two
turns, in the first of which it asks. And a document whose worker did not report a success
was left alone, because its worker may put the file in place only when it was told to go
on each time it asked.

What is left alone is the file: the directory of the output is made before the worker
asks for the last time, and its path may run through the place of the output itself.

## Main definitions

* `Crew.undisturbed`: A crew that no one asks to stop.
* `Crew.Unarmed`: A crew that does not heed requests to stop.
* `Worker.warned`: A worker that was asked to stop before it began.
* `Forewarned`: A crew that was asked to stop before its first turn.
* `CancellationPolicy`: What a request to stop does.

## Theorems

* `Crew.take_undisturbed`: Requests that are not heeded make no difference.
* `Forewarned.take`, `Forewarned.store_take`: Turns of a crew that was asked first.
* `Forewarned.session_take`, `Forewarned.results_eq`: What it would have done plays no
  part.
* `cancellationPolicy`: The policy holds.
* `folder_at_output`: A folder in the place of an output.
-/

namespace Vitae

/-! ### Requests that are not heeded -/

namespace Batch

/-- Requests to stop play no part when units are submitted. -/
theorem submitAll_undisturbed (order : Order) (units : List WorkUnit) (handed : Nat) (batch : Batch)
    (session : Session) :
    submitAll order handed units batch session.undisturbed =
      ((submitAll order handed units batch session).1,
        (submitAll order handed units batch session).2.1,
        (submitAll order handed units batch session).2.2.undisturbed) := by
  induction units generalizing handed batch session with
  | nil => rfl
  | cons u rest ih =>
    have hone : submitOne order handed u batch session.undisturbed =
        ((submitOne order handed u batch session).1, (submitOne order handed u batch session).2.1,
          (submitOne order handed u batch session).2.2.undisturbed) := by
      have hstore : session.undisturbed.store = session.store := rfl
      unfold submitOne
      cases order.debug with
      | true =>
        have hnote : ∀ entry, (session.undisturbed.note entry).store = session.store := fun _ => rfl
        have hplain : ∀ entry, (session.note entry).store = session.store := fun _ => rfl
        simp only [if_true, hnote, hplain]
        cases u.resolve session.store <;> rfl
      | false =>
        simp only [Bool.false_eq_true, if_false, hstore]
        cases u.resolve session.store <;> rfl
    rw [submitAll, hone]
    exact ih _ _ _

theorem submit_undisturbed (order : Order) (batch : Batch) (session : Session) :
    submit order batch session.undisturbed =
      ((submit order batch session).1, (submit order batch session).2.1,
        (submit order batch session).2.2.undisturbed) := by
  unfold submit
  rw [submitAll_undisturbed]
  split_ifs <;> rfl

end Batch

namespace Crew

variable {crew : Crew}

/-- The crew if no one asks it to stop. -/
def undisturbed (crew : Crew) : Crew :=
  { crew with session := crew.session.undisturbed }

/-- A crew that does not heed requests to stop. -/
def Unarmed (crew : Crew) : Prop :=
  ∀ kind worker, crew.workers kind = some worker → worker.pending.interrupt = false

theorem unarmed_turn (h : crew.Unarmed) (kind : Kind) : (crew.turn kind).Unarmed := by
  cases hworker : crew.workers kind with
  | none => rwa [turn_of_none hworker]
  | some worker =>
    intro other after hafter
    rw [workers_turn hworker] at hafter
    split_ifs at hafter
    · cases hafter
      rw [worker.pending_step]
      exact h kind worker hworker
    · exact h other after hafter

/-- A worker that does not heed requests makes the same step without them. -/
theorem step_undisturbed {worker : Worker} (h : worker.pending.interrupt = false)
    (session : Session) :
    worker.step session.undisturbed =
      ((worker.step session).1, (worker.step session).2.undisturbed) := by
  have hanswer : ∀ s : Session, s.answer (Batch.contextOf worker.pending) 0 = false := by
    intro s
    rw [Session.answer, Batch.contextOf, h, Bool.false_and]
  unfold Worker.step
  split
  · rfl
  · simp only [hanswer]
    rfl
  · rfl

theorem turn_undisturbed (h : crew.Unarmed) (kind : Kind) :
    crew.undisturbed.turn kind = (crew.turn kind).undisturbed := by
  cases hworker : crew.workers kind with
  | none =>
    rw [turn_of_none hworker]
    exact turn_of_none hworker
  | some worker =>
    have hsame : crew.undisturbed.workers kind = some worker := hworker
    have hstep := step_undisturbed (h kind worker hworker) crew.session
    rw [turn_of_some hworker, turn_of_some hsame]
    -- The step is made in the session that no one disturbs.
    change Crew.mk _ (Function.update crew.workers kind
      (some (worker.step crew.session.undisturbed).1)) (worker.step crew.session.undisturbed).2 = _
    rw [hstep]
    rfl

theorem take_undisturbed (h : crew.Unarmed) (turns : List Kind) :
    crew.undisturbed.take turns = (crew.take turns).undisturbed := by
  induction turns generalizing crew with
  | nil => rfl
  | cons kind rest ih =>
    rw [take_cons, take_cons, turn_undisturbed h, ih (unarmed_turn h kind)]

end Crew

theorem Config.crew_undisturbed (config : Config) (procedure : Procedure) (session : Session) :
    config.crew procedure session.undisturbed = (config.crew procedure session).undisturbed := by
  have hdispatch := Batch.submit_undisturbed config.order (Batch.new procedure.backend) session
  unfold Config.crew Config.pendingFor Config.dispatch
  rw [hdispatch]
  rfl

/-! ### Requests that come first -/

/-- What is reported and logged of a unit that was asked to stop before it began. -/
def Pending.refusal (p : Pending) (elapsed : Kind → Nat) : Report × Session :=
  p.unit.cancelBeforeStart (Batch.contextOf p) (Procedure.blank elapsed)

theorem Pending.refusal_fst {p : Pending} (h : p.unit.status = .pending) (elapsed : Kind → Nat) :
    (p.refusal elapsed).1 = ⟨p.unit.kind, p.unit.source, .interrupted, none, none, 0⟩ := by
  obtain ⟨_, hcancel⟩ := WorkUnit.cancelBeforeStart_eq h (Batch.contextOf p) (Procedure.blank elapsed)
  exact congrArg Prod.fst hcancel

/-- A worker that was asked to stop before it began, after some turns. -/
def Worker.warned (procedure : Procedure) (elapsed : Kind → Nat) (p : Pending) : Nat → Worker
  | 0 => .start procedure elapsed p
  | 1 => ⟨p, Procedure.told (p.refusal elapsed), [], [true]⟩
  | _ + 2 => ⟨p, .done (p.refusal elapsed).1, [], [true]⟩

/-- The session after one more turn of such a worker. -/
def Session.warned (elapsed : Kind → Nat) (p : Pending) (session : Session) : Nat → Session
  | 0 => session.polled
  | 1 => session.noteAll (p.refusal elapsed).2.log
  | _ + 2 => session

section Forewarned

variable {procedure other : Procedure} {elapsed : Kind → Nat} {pending : Kind → Option Pending}
  {turns : List Kind} {crew crew' : Crew} {session : Session}

theorem Session.token_warned (p : Pending) (session : Session) (n : Nat) :
    (session.warned elapsed p n).token = session.token := by
  rcases n with _ | _ | n <;> rfl

theorem Session.store_warned (p : Pending) (session : Session) (n : Nat) :
    (session.warned elapsed p n).store = session.store := by
  rcases n with _ | _ | n <;> rfl

theorem Worker.step_warned (procedure : Procedure) (elapsed : Kind → Nat) {p : Pending}
    (hinterrupt : p.interrupt = true) (htoken : session.token.isCancelled = true) (n : Nat) :
    (Worker.warned procedure elapsed p n).step session =
      (.warned procedure elapsed p (n + 1), session.warned elapsed p n) := by
  have hanswer : session.answer (Batch.contextOf p) 0 = true := by
    rw [Session.answer, Batch.contextOf, hinterrupt, htoken]
    rfl
  rcases n with _ | _ | n
  · -- In its first turn it asks, and is told to stop.
    change (Worker.mk p (if session.answer (Batch.contextOf p) 0 = true then _ else _) []
      ([] ++ [session.answer (Batch.contextOf p) 0]), session.polled) = _
    rw [hanswer]
    rfl
  · rfl
  · rfl

/-- Such a worker has reported after two turns. -/
theorem Worker.report?_warned (procedure : Procedure) (elapsed : Kind → Nat) (p : Pending) (n : Nat) :
    (Worker.warned procedure elapsed p n).report? =
      if 2 ≤ n then some (p.refusal elapsed).1 else none := by
  rcases n with _ | _ | n <;> rfl

/-- A crew that was asked to stop before its first turn, after some turns. -/
structure Forewarned (procedure : Procedure) (elapsed : Kind → Nat)
    (pending : Kind → Option Pending) (turns : List Kind) (crew : Crew) : Prop where
  token : crew.session.token.isCancelled = true
  heeds : ∀ kind p, pending kind = some p → p.interrupt = true
  units : ∀ kind p, pending kind = some p → p.unit.kind = kind ∧ p.unit.status = .pending
  workers : ∀ kind, crew.workers kind =
    (pending kind).map fun p => .warned procedure elapsed p (turns.count kind)

namespace Forewarned

theorem session_turn (h : Forewarned procedure elapsed pending turns crew) (kind : Kind) :
    (crew.turn kind).session = (pending kind).elim crew.session fun p =>
      crew.session.warned elapsed p (turns.count kind) := by
  have hworker := h.workers kind
  cases hpending : pending kind with
  | none =>
    rw [hpending] at hworker
    rw [Crew.turn_of_none hworker]
    rfl
  | some p =>
    rw [hpending] at hworker
    rw [Crew.turn_of_some hworker]
    exact congrArg Prod.snd (Worker.step_warned procedure elapsed (h.heeds kind p hpending) h.token _)

/-- A turn of a worker that was asked to stop before. -/
theorem turn (h : Forewarned procedure elapsed pending turns crew) (kind : Kind) :
    Forewarned procedure elapsed pending (turns ++ [kind]) (crew.turn kind) where
  token := by
    rw [h.session_turn kind]
    cases pending kind with
    | none => exact h.token
    | some p => exact (congrArg Token.isCancelled (Session.token_warned p crew.session _)).trans h.token
  heeds := h.heeds
  units := h.units
  workers := by
    intro other
    have hworker := h.workers kind
    rw [List.count_append, List.count_singleton]
    cases hpending : pending kind with
    | none =>
      rw [hpending] at hworker
      rw [Crew.turn_of_none hworker, h.workers other]
      by_cases hother : kind = other
      · rw [← hother, hpending]
        rfl
      · rw [beq_eq_false_iff_ne.mpr hother]
        rfl
    | some p =>
      rw [hpending] at hworker
      rw [Crew.workers_turn hworker, h.workers other]
      by_cases hother : kind = other
      · rw [if_pos hother.symm, ← hother, hpending, beq_self_eq_true, if_pos rfl]
        exact congrArg (fun r => some r.1)
          (Worker.step_warned procedure elapsed (h.heeds kind p hpending) h.token _)
      · rw [if_neg (Ne.symm hother), beq_eq_false_iff_ne.mpr hother]
        rfl

theorem take (h : Forewarned procedure elapsed pending turns crew) (more : List Kind) :
    Forewarned procedure elapsed pending (turns ++ more) (crew.take more) := by
  induction more generalizing turns crew with
  | nil =>
    rw [List.append_nil]
    exact h
  | cons kind rest ih =>
    rw [List.append_cons]
    exact ih (h.turn kind)

/-- The files stay as they are. -/
theorem store_take (h : Forewarned procedure elapsed pending turns crew) (more : List Kind) :
    (crew.take more).session.store = crew.session.store := by
  induction more generalizing turns crew with
  | nil => rfl
  | cons kind rest ih =>
    rw [Crew.take_cons, ih (h.turn kind), h.session_turn kind]
    cases pending kind with
    | none => rfl
    | some p => exact Session.store_warned p crew.session _

/-- Whoever has had two turns has reported. -/
theorem report?_of_le (h : Forewarned procedure elapsed pending turns crew) {kind : Kind}
    {p : Pending} (hpending : pending kind = some p) (hturns : 2 ≤ turns.count kind) :
    (crew.workers kind).bind Worker.report? =
      some ⟨kind, p.unit.source, .interrupted, none, none, 0⟩ := by
  obtain ⟨hkind, hstatus⟩ := h.units kind p hpending
  rw [h.workers kind, hpending, Option.map_some, Option.bind_some, Worker.report?_warned,
    if_pos hturns, Pending.refusal_fst hstatus, hkind]

theorem reportsOwn (h : Forewarned procedure elapsed pending turns crew) : crew.ReportsOwn := by
  intro kind worker report hworker hreport
  rw [h.workers kind] at hworker
  obtain ⟨p, hpending, rfl⟩ := Option.map_eq_some_iff.mp hworker
  obtain ⟨hkind, hstatus⟩ := h.units kind p hpending
  rw [Worker.report?_warned] at hreport
  split_ifs at hreport
  cases hreport
  rw [Pending.refusal_fst hstatus]
  exact hkind

/-- What the workers would have done had they not been asked to stop plays no part. -/
theorem session_take (h : Forewarned procedure elapsed pending turns crew)
    (h' : Forewarned other elapsed pending turns crew') (hsession : crew'.session = crew.session)
    (more : List Kind) : (crew'.take more).session = (crew.take more).session := by
  -- Each turn does the same to both sessions, whoever has it.
  induction more generalizing turns crew crew' with
  | nil => exact hsession
  | cons kind rest ih =>
    refine ih (h.turn kind) (h'.turn kind) ?_
    rw [h.session_turn kind, h'.session_turn kind, hsession]

theorem results_eq (h : Forewarned procedure elapsed pending turns crew)
    (h' : Forewarned other elapsed pending turns crew') (hrecorded : crew'.recorded = crew.recorded) :
    crew'.results = crew.results := by
  have hreports : ∀ kind, (crew'.workers kind).bind Worker.report? =
      (crew.workers kind).bind Worker.report? := by
    intro kind
    rw [h.workers kind, h'.workers kind]
    cases pending kind with
    | none => rw [Option.map_none, Option.map_none]
    | some p =>
      rw [Option.map_some, Option.map_some, Option.bind_some, Option.bind_some,
        Worker.report?_warned, Worker.report?_warned]
  unfold Crew.results
  rw [hrecorded, funext hreports]

end Forewarned

end Forewarned

/-! ### The policy -/

namespace Config

variable {config : Config} {procedure : Procedure} {session : Session}

theorem unarmed_crew (h : config.interrupt = false) : (config.crew procedure session).Unarmed := by
  intro kind worker hworker
  obtain ⟨p, hp, rfl⟩ := Option.map_eq_some_iff.mp hworker
  exact (mem_pending_dispatch (mem_of_pendingFor hp).1).2.2.trans h

theorem forewarned_crew (procedure : Procedure) (backend : Backend) (hinterrupt : config.interrupt = true)
    (htoken : session.token.isCancelled = true) :
    Forewarned procedure session.elapsed (config.pendingFor backend session) []
      (config.crew procedure session) where
  token := by
    obtain ⟨entries, hentries⟩ := session_crew config procedure session
    rw [hentries]
    exact htoken
  heeds kind p hp := (mem_pending_dispatch (mem_of_pendingFor hp).1).2.2.trans hinterrupt
  units kind p hp :=
    ⟨(mem_of_pendingFor hp).2, status_of_mem_units (mem_pending_dispatch (mem_of_pendingFor hp).1).1⟩
  workers kind := by
    rw [config.pendingFor_backend procedure.backend backend]
    rfl

end Config

/-- What a request to stop does to the documents of a configuration, whichever turns the
workers have taken. -/
structure CancellationPolicy (config : Config) (session : Session) : Prop where
  /-- A request that is not heeded makes no difference. -/
  ignored : config.interrupt = false → ∀ procedure turns,
    let crew := (config.crew procedure session).take turns
    let alone := (config.crew procedure session.undisturbed).take turns
    crew.results = alone.results ∧ crew.results.exitCode = alone.results.exitCode ∧
      crew.session.store = alone.session.store
  /-- One that comes first lets no one call the backend or touch the files. -/
  uncalled : config.interrupt = true → session.token.isCancelled = true → ∀ procedure turns,
    let crew := (config.crew procedure session).take turns
    crew.session.store = session.store ∧ ∀ other,
      let crew' := (config.crew other session).take turns
      crew'.results = crew.results ∧ crew'.session = crew.session
  /-- Whoever has had two turns has reported. -/
  interrupted : config.interrupt = true → session.token.isCancelled = true →
    ∀ procedure turns, ∀ u ∈ config.units, u.Resolves session.store → 2 ≤ turns.count u.kind →
      ((config.crew procedure session).take turns).results.get? u.kind =
        some ⟨u.kind, u.source, .interrupted, none, none, 0⟩
  /-- A source that cannot be read is a failure all the same. -/
  rejected : config.interrupt = true → session.token.isCancelled = true →
    ∀ procedure turns, ∀ u ∈ config.units, ∀ error, u.resolve session.store = .error error →
      ((config.crew procedure session).take turns).results.get? u.kind =
        some ⟨u.kind, u.source, .failed, none, some (.config error), 0⟩
  /-- Whoever has reported a success was told to go on all seven times, once before it began
  and six times by the stages. Any other document that is on record was left alone. -/
  documents : ∀ page turns, ∀ u ∈ config.units, ∀ report,
    let crew := (config.crew (.document page) session).take turns
    crew.results.get? u.kind = some report →
      (report.status = .succeeded → ∃ worker, crew.workers u.kind = some worker ∧
        worker.answers = List.replicate 7 false) ∧
      (report.status ≠ .succeeded → LeftAlone config u.kind session.store crew.session.store)

/-- Requests to stop do what they should, whenever they come. -/
theorem cancellationPolicy (config : Config) (session : Session) :
    CancellationPolicy config session where
  ignored := by
    intro hinterrupt procedure turns crew alone
    have halone : alone = crew.undisturbed := by
      rw [← Crew.take_undisturbed (Config.unarmed_crew hinterrupt), ← Config.crew_undisturbed]
    rw [halone]
    exact ⟨rfl, rfl, rfl⟩
  uncalled := by
    intro hinterrupt htoken procedure turns
    have hwarned := Config.forewarned_crew procedure procedure.backend hinterrupt htoken
    refine ⟨(hwarned.store_take turns).trans (config.store_crew procedure session), ?_⟩
    intro other crew'
    have hother := Config.forewarned_crew other procedure.backend hinterrupt htoken
    have hdispatch := dispatch_backend config procedure.backend other.backend session
    have hrecorded : (config.crew other session).recorded = (config.crew procedure session).recorded :=
      congrArg (fun r => r.2.1.results) hdispatch
    refine ⟨(hwarned.take turns).results_eq (hother.take turns) ?_,
      hwarned.session_take hother (congrArg (fun r => r.2.2) hdispatch) turns⟩
    rw [Crew.recorded_take, Crew.recorded_take, hrecorded]
  interrupted := by
    intro hinterrupt htoken procedure turns u hu hresolves hturns
    have hwarned := (Config.forewarned_crew procedure procedure.backend hinterrupt htoken).take turns
    obtain ⟨p, hpending, rfl⟩ := Config.pendingFor_of_resolves hu hresolves
    rw [Crew.get?_results hwarned.reportsOwn, hwarned.report?_of_le hpending hturns]
    rfl
  rejected := by
    intro hinterrupt htoken procedure turns u hu error hresolve
    have hwarned := (Config.forewarned_crew procedure procedure.backend hinterrupt htoken).take turns
    rw [Crew.get?_results hwarned.reportsOwn, Crew.recorded_take,
      Crew.workers_take_of_none (Config.workers_of_rejected procedure hu hresolve),
      Config.recorded_of_rejected procedure hu hresolve,
      u.rejection_eq (Config.status_of_mem_units hu)]
    rfl
  documents := by
    intro page turns u hu report crew hreport
    obtain ⟨published, horderly⟩ := (config.orderly_crew page session).take turns
    have hiff := horderly.succeeded_iff hu hreport
    refine ⟨fun hsucceeded => horderly.goAhead u.kind (hiff.mp hsucceeded), fun hother => ?_⟩
    have hunpublished := (Bool.not_eq_true _).mp (mt hiff.mpr hother)
    exact (horderly.store.leftAlone hunpublished).of_withDrafts

/-- A configuration whose output folder is reached through the place of its output. -/
def throughConfig : Config :=
  { sampleConfig with letterSource := none, outputFolder := Path.ofText "cv.pdf/.." }

/-- A session that is asked to stop at the seventh poll. -/
def lateSession : Session :=
  { sampleSession with
    store := ⟨[([], .folder), ([Utf8.encode "cv.json"], .file (Utf8.encode "\x7b\x7d"))], [], [],
      fun _ => none⟩
    outside := fun n => decide (6 ≤ n) }

/-- The crew for it after enough turns. -/
def throughCrew : Crew :=
  (throughConfig.crew (.document .standard) lateSession).take (List.replicate 24 .cv)

/-- A document can be interrupted and leave a folder in the place of its output. -/
theorem folder_at_output :
    (throughCrew.results.get? .cv).map Report.status = some .interrupted ∧
      throughCrew.session.store.locate (throughConfig.outputPath .cv) =
        .ok [Utf8.encode "cv.pdf"] ∧
      lateSession.store.node? [Utf8.encode "cv.pdf"] = none ∧
      throughCrew.session.store.node? [Utf8.encode "cv.pdf"] = some .folder := by
  decide +kernel

/-- If no one asks to stop, the document is compiled. -/
example :
    let crew := (sampleConfig.crew (.document .standard) lateSession.undisturbed).take
      (List.replicate 24 .cv)
    (crew.results.get? .cv).map Report.status = some .succeeded := by
  decide +kernel

end Vitae
