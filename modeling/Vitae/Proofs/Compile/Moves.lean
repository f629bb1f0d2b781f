import Vitae.Proofs.Compile.Lifecycle
import Vitae.Proofs.Compile.Workers

/-!
# The Changes of Status in the Log

With debugging on, a unit logs its changes of status, and its entries carry its tag. The
workers of a batch log side by side, so what is asked is which changes the entries of one unit
tell, whatever stands between them.

They follow one upon the other from the beginning on, at any time and whatever turns the
workers have taken. This is an invariant: what is still to be done for a unit goes on where its
last entry has left it (`Process.Narrates`), and every turn keeps that (`Narrated.turn`). The
other workers do not get in the way, because what they log of themselves carries another tag.

In the end the changes lead to the status that is reported, with two exceptions. A unit whose
source cannot be read is rejected without a word about its status, so no change is told of it at
all. And a worker that crashes leaves its unit running: the failure is in the report, but the
last change that was told is that the unit began to run.

A procedure can log what it likes. It is taken to be discreet, so that a change of status is
told only by whoever makes it.

## Main definitions

* `movesOf`: The changes of status that a log tells of one unit.
* `Leads`: A log that tells how one unit goes from one status to another.
* `Procedure.Discreet`: A procedure that tells no change of status.
* `Process.Narrates`: A process that tells the changes of a unit to the end.
* `Report.Shows`: A report on a unit whose last change that was told led to some status.
* `Session.Hushed`: Sessions between which no change of status was told.
* `Narrated`: A crew that has told the changes of all its units so far.
* `Traced`: What was told of a unit that is reported.

## Theorems

* `Procedure.discreet_document`: The five stages tell no change of status.
* `Procedure.narrates_worker`: A worker tells the changes of its unit.
* `Batch.hushed_submit`: Submitting tells no change of status.
* `Narrated.turn`: Every turn goes on where the last one has ended.
* `traced_crew`: The changes that are told of each unit.
* `not_forall_traced`: A change that is not told.
-/

namespace Vitae

/-- The changes of status that a log tells of a unit. -/
def movesOf (kind : Kind) (entries : List LogEntry) : List (Status × Status) :=
  moves (entries.filter (LogEntry.tagged kind))

/-- A log that tells how a unit goes from one status to another, and of no other unit. -/
structure Leads (kind : Kind) (before : Status) (entries : List LogEntry) (after : Status) :
    Prop where
  course : Course before (movesOf kind entries) after
  others : ∀ other, other ≠ kind → movesOf other entries = []

section Leads

variable {kind : Kind} {before middle after : Status} {entries more : List LogEntry}

theorem movesOf_append (kind : Kind) (xs ys : List LogEntry) :
    movesOf kind (xs ++ ys) = movesOf kind xs ++ movesOf kind ys := by
  rw [movesOf, List.filter_append, moves_append]
  rfl

/-- What tells no change of status tells none of any unit. -/
theorem movesOf_eq_nil (h : moves entries = []) (kind : Kind) : movesOf kind entries = [] :=
  List.filterMap_eq_nil_iff.mpr fun entry hentry =>
    List.filterMap_eq_nil_iff.mp h entry (List.mem_of_mem_filter hentry)

theorem moves_of_moved? {entry : LogEntry} (h : entry.moved? = none) : moves [entry] = [] :=
  List.filterMap_cons_none h

/-- A note on the progress of one unit does not carry the tag of another one. -/
theorem tagged_progress_of_ne {context : Context} (h : kind ≠ context.kind) (message : String)
    (fields : List (String × LogValue)) :
    (Session.progress context message fields).tagged kind = false := by
  unfold LogEntry.tagged Session.progress
  cases hkind : context.kind <;> cases kind <;> first | rfl | exact absurd hkind.symm h

theorem leads_of_moves (h : moves entries = []) : Leads kind before entries before where
  course := by
    rw [movesOf_eq_nil h]
    exact .stay before
  others other _ := movesOf_eq_nil h other

theorem Leads.append (h : Leads kind before entries middle) (h' : Leads kind middle more after) :
    Leads kind before (entries ++ more) after where
  course := by
    rw [movesOf_append]
    exact h.course.append h'.course
  others other hother := by
    rw [movesOf_append, h.others other hother, h'.others other hother]
    rfl

theorem movesOf_ofMove (kind : Kind) (before after : Status) :
    movesOf kind [LogEntry.ofMove kind before after] = [(before, after)] := by
  have htagged : (LogEntry.ofMove kind before after).tagged kind = true :=
    tagged_progress ⟨kind, true, true⟩ _ _
  rw [movesOf, List.filter_cons_of_pos htagged]
  exact List.filterMap_cons_some (moved?_ofMove ..)

theorem movesOf_ofMove_of_ne {other : Kind} (h : other ≠ kind) (before after : Status) :
    movesOf other [LogEntry.ofMove kind before after] = [] := by
  have htagged : (LogEntry.ofMove kind before after).tagged other = false :=
    tagged_progress_of_ne h _ _
  rw [movesOf, List.filter_cons_of_neg (by rw [htagged]; exact Bool.false_ne_true)]
  rfl

/-- A unit tells a change of status if it makes one. -/
theorem leads_moveNotes (u : WorkUnit) (next : Status) :
    Leads u.kind u.status (u.moveNotes next) (u.advance next).2.status := by
  unfold WorkUnit.moveNotes
  rcases u.advance_cases next with ⟨hcan, hadvance⟩ | ⟨hcan, hadvance⟩
  · rw [if_pos hcan, hadvance]
    refine ⟨?_, fun other hother => movesOf_ofMove_of_ne hother _ _⟩
    rw [movesOf_ofMove]
    exact .go hcan (.stay next)
  · rw [hcan, if_neg Bool.false_ne_true, hadvance]
    exact leads_of_moves rfl

/-- A unit that ends tells so, whatever else is said about its end. -/
theorem leads_end {u : WorkUnit} (h : u.status.isTerminal = false) {next : Status}
    (hnext : next.isTerminal = true) {line : LogEntry} (hline : line.moved? = none) :
    Leads u.kind u.status (u.moveNotes next ++ [line]) next := by
  have hmove := leads_moveNotes u next
  rw [WorkUnit.status_advance_of_open h hnext] at hmove
  exact hmove.append (leads_of_moves (moves_of_moved? hline))

end Leads

/-! ### Processes -/

namespace Process

variable {α β : Type} {kind : Kind} {status : Status} {ends : Status → α → Prop}

/-- A process that tells no change of status. -/
def Discreet : Process α → Prop
  | .done _ => True
  | .ask next => ∀ stop, (next stop).Discreet
  | .act effect next => ∀ store : Store, moves (effect store).2 = [] ∧ (next store).Discreet

/-- A process that goes on with the changes of a unit from a given status to the end. -/
def Narrates (kind : Kind) (ends : Status → α → Prop) : Status → Process α → Prop
  | status, .done result => ends status result
  | status, .ask next => ∀ stop, (next stop).Narrates kind ends status
  | status, .act effect next => ∀ store : Store, ∃ after,
    Leads kind status (effect store).2 after ∧ (next store).Narrates kind ends after

theorem narrates_note {entries : List LogEntry} {next : Process α} {after : Status}
    (h : Leads kind status entries after) (hnext : next.Narrates kind ends after) :
    (note entries next).Narrates kind ends status :=
  fun _ => ⟨after, h, hnext⟩

/-- What comes after a discreet process goes on where that has begun. -/
theorem Discreet.narrates_bind {process : Process β} (h : process.Discreet) {after : β → Process α}
    (hafter : ∀ result, (after result).Narrates kind ends status) :
    (process.bind after).Narrates kind ends status := by
  induction process with
  | done result => exact hafter result
  | ask next ih => exact fun stop => ih stop (h stop)
  | act effect next ih =>
    exact fun store => ⟨status, leads_of_moves (h store).1, ih store (h store).2⟩

end Process

namespace Procedure

/-- A procedure that tells no change of status, for any job. -/
def Discreet (procedure : Procedure) : Prop :=
  ∀ job kind armed, (procedure.steps job ⟨kind, true, armed⟩).Discreet

/-- A procedure whose trace can be left out is discreet. -/
theorem discreet_of_shadows {kind : Kind} {stages : List Stage} {process process' : Process Ending}
    (h : Shadows kind stages process process') : process.Discreet := by
  induction h with
  | done => trivial
  | ask _ ih => exact ih
  | act _ htrail _ ih => exact fun store => ⟨(htrail store).moved, ih store⟩
  | enter _ _ ih =>
    have hmessage : "entering stage".toList.head? ≠ some 's' := by decide
    exact fun _ => ⟨moves_of_moved? (moved?_eq_none hmessage), ih⟩

/-- The five stages tell no change of status. -/
theorem discreet_document (page : PageConfig) : (Procedure.document page).Discreet :=
  fun job kind armed => discreet_of_shadows (shadows_documentSteps kind armed page job)

end Procedure

/-! ### Reports -/

/-- A report that gives no error but that of a compilation. -/
def Report.Compiled (report : Report) : Prop :=
  ∀ error, report.error = some error → ∃ cause, error = .render cause

/-- A report on a unit, if the last change that was told has led to the given status. -/
inductive Report.Shows (report : Report) : Status → Prop where
  /-- Of a unit that was rejected nothing was told. -/
  | rejected {error : ConfigError} (herror : report.error = some (.config error))
    (hfailed : report.status = .failed) : Shows report .pending
  /-- Of a unit that crashed it was told that it runs. -/
  | crashed {words : String} (herror : report.error = some (.crashed words))
    (hfailed : report.status = .failed) : Shows report .running
  /-- Of any other unit it was told how it ends. -/
  | ended {status : Status} (hcompiled : report.Compiled) (hstatus : report.status = status)
    (hterminal : status.isTerminal = true) : Shows report status

theorem moved?_closingEntry (u : WorkUnit) (elapsed : Nat) (ending : Ending) :
    (u.closingEntry elapsed ending).moved? = none := by
  cases ending <;> exact (WorkUnit.silent_entry _ _ _ rfl).1

namespace Procedure

/-- To tell what was logged, and to be done. -/
theorem narrates_told {kind : Kind} {ends : Status → Report → Prop} {before after : Status}
    {result : Report × Session} (h : Leads kind before result.2.log after)
    (hends : ends after result.1) : (told result).Narrates kind ends before :=
  Process.narrates_note h hends

/-- The report on a unit that never began, and what was logged with it. -/
theorem leads_cancelBeforeStart (elapsed : Kind → Nat) {u : WorkUnit}
    (hstatus : u.status = .pending) (armed : Bool) :
    let result := u.cancelBeforeStart ⟨u.kind, true, armed⟩ (blank elapsed)
    Leads u.kind .pending result.2.log .interrupted ∧ result.1.kind = u.kind ∧
      result.1.Shows .interrupted := by
  have hopen : u.status.isTerminal = false := by
    rw [hstatus]
    rfl
  have hline : (u.entry .warning "unit interrupted before starting" []).moved? = none :=
    (u.silent_entry _ _ rfl).1
  have hleads : Leads u.kind u.status (u.moveNotes .interrupted ++ _) .interrupted :=
    leads_end hopen rfl hline
  rw [hstatus] at hleads
  unfold WorkUnit.cancelBeforeStart
  rw [WorkUnit.transition_loud rfl]
  exact ⟨hleads, u.kind_advance _, .ended nofun (u.status_advance_of_open hopen rfl) rfl⟩

/-- The report on a unit that was running, and what was logged with it. -/
theorem leads_conclude (elapsed : Kind → Nat) {u v : WorkUnit} (hstatus : u.status = .running)
    (hkind : v.kind = u.kind) (armed : Bool) (ending : Ending) :
    let result := Batch.reportOf v (u.conclude ⟨u.kind, true, armed⟩ ending (blank elapsed))
    ∃ after, Leads u.kind .running result.2.log after ∧ result.1.kind = u.kind ∧
      result.1.Shows after := by
  by_cases hcrash : ∃ words, ending = .crashed words
  · obtain ⟨words, rfl⟩ := hcrash
    -- The only entry is written by whoever finds the crash.
    have hmessage : "unit failed".toList.head? ≠ some 's' := by decide
    exact ⟨.running, leads_of_moves (moves_of_moved? (moved?_eq_none hmessage)), hkind,
      .crashed rfl rfl⟩
  · have hopen : u.status.isTerminal = false := by
      rw [hstatus]
      rfl
    have hterminal : ending.outcome.isTerminal = true :=
      WorkUnit.Way.isTerminal_outcome .execute ending
    have hleads := leads_end hopen hterminal
      (moved?_closingEntry u ((blank elapsed).elapsed u.kind) ending)
    rw [hstatus] at hleads
    rw [WorkUnit.conclude_eq _ _ (not_exists.mp hcrash), WorkUnit.transition_loud rfl]
    refine ⟨ending.outcome, hleads, u.kind_advance _,
      .ended (fun error herror => ?_) (u.status_advance_of_open hopen hterminal) hterminal⟩
    cases ending with
    | crashed words => exact absurd ⟨words, rfl⟩ hcrash
    | failed cause => exact ⟨cause, (Option.some.inj herror).symm⟩
    | completed | interrupted => cases herror

/-- A worker tells the changes of its unit from the beginning to the end. -/
theorem narrates_worker {procedure : Procedure} (hdiscreet : procedure.Discreet)
    (elapsed : Kind → Nat) {pending : Pending} (hstatus : pending.unit.status = .pending)
    (hdebug : pending.debug = true) :
    (procedure.worker elapsed pending).Narrates pending.unit.kind
      (fun status report => report.kind = pending.unit.kind ∧ report.Shows status) .pending := by
  let u := pending.unit
  have hcontext : Batch.contextOf pending = ⟨u.kind, true, pending.interrupt⟩ := by
    rw [Batch.contextOf, hdebug]
  intro stop
  rw [hcontext]
  cases stop with
  | true =>
    -- Told to stop, the unit goes to its end from the beginning.
    have hcancel := leads_cancelBeforeStart elapsed (u := u) hstatus pending.interrupt
    exact narrates_told hcancel.1 hcancel.2
  | false =>
    -- Otherwise it begins to run, the procedure tells no change, and the unit ends from there.
    have hcan : u.status.canAdvanceTo .running = true := by
      rw [hstatus]
      rfl
    have hadvance : u.advance .running = (true, { u with status := .running }) := if_pos hcan
    have hmove := leads_moveNotes u .running
    rw [hstatus, hadvance] at hmove
    have hinvoking : ("invoking " ++ procedure.name ++ " backend").toList.head? ≠ some 's' := by
      simp [String.toList_append]
    have hcalled : moves (Session.traceNotes ⟨u.kind, true, pending.interrupt⟩
        ("invoking " ++ procedure.name ++ " backend")) = [] :=
      moves_of_moved? (moved?_eq_none hinvoking)
    have hbegun : Leads u.kind .pending (u.moveNotes .running ++
        Session.traceNotes ⟨u.kind, true, pending.interrupt⟩
          ("invoking " ++ procedure.name ++ " backend")) .running :=
      hmove.append (leads_of_moves hcalled)
    rw [WorkUnit.transition_loud rfl]
    simp only [Bool.false_eq_true, if_false]
    refine Process.narrates_note hbegun ?_
    refine (hdiscreet u.job u.kind pending.interrupt).narrates_bind fun ending => ?_
    rw [hadvance]
    obtain ⟨after, hleads, hends⟩ := leads_conclude elapsed (u := { u with status := .running })
      (v := u) rfl rfl pending.interrupt ending
    exact narrates_told hleads hends

end Procedure

/-! ### Submitting -/

namespace Session

/-- Between two sessions no change of status was told. -/
def Hushed (before after : Session) : Prop :=
  ∃ entries, after.log = before.log ++ entries ∧ moves entries = []

variable {before middle after : Session}

theorem Hushed.refl (session : Session) : Hushed session session :=
  ⟨[], (List.append_nil _).symm, rfl⟩

theorem Hushed.trans (h : Hushed before middle) (h' : Hushed middle after) :
    Hushed before after := by
  obtain ⟨entries, hlog, hmoves⟩ := h
  obtain ⟨more, hlog', hmoves'⟩ := h'
  refine ⟨entries ++ more, ?_, ?_⟩
  · rw [hlog', hlog, List.append_assoc]
  · rw [moves_append, hmoves, hmoves']
    rfl

theorem hushed_note {entry : LogEntry} (h : entry.moved? = none) :
    Hushed before (before.note entry) :=
  ⟨[entry], rfl, moves_of_moved? h⟩

end Session

namespace Batch

theorem moved?_entry (level : Level) {message : String} (fields : List (String × LogValue))
    (h : message.toList.head? ≠ some 's') : (entry level message fields).moved? = none :=
  moved?_eq_none h

theorem hushed_submitOne (order : Order) (handed : Nat) (u : WorkUnit) (batch : Batch)
    (session : Session) : session.Hushed (submitOne order handed u batch session).2.2 := by
  unfold submitOne
  extract_lets submitted
  have hsubmitted : session.Hushed submitted := by
    unfold submitted
    split
    · exact Session.hushed_note (moved?_entry _ _ (by decide))
    · exact .refl session
  cases u.resolve submitted.store with
  | ok _ => exact hsubmitted
  | error error =>
    exact hsubmitted.trans (Session.hushed_note (u.silent_entry _ _ rfl).1)

theorem hushed_submitAll (order : Order) (units : List WorkUnit) (handed : Nat) (batch : Batch)
    (session : Session) : session.Hushed (submitAll order handed units batch session).2.2 := by
  induction units generalizing handed batch session with
  | nil => exact .refl session
  | cons u rest ih => exact (hushed_submitOne order handed u batch session).trans (ih _ _ _)

/-- Submitting tells no change of status, not even of the units that it rejects. -/
theorem hushed_submit (order : Order) (batch : Batch) (session : Session) :
    session.Hushed (batch.submit order session).2.2 := by
  unfold submit
  split
  · exact Session.hushed_note (moved?_entry _ _ (by decide))
  · exact (hushed_submitAll order order.units 0 batch session).trans
      (Session.hushed_note (moved?_entry _ _ (by decide)))

end Batch

/-! ### Workers -/

/-- A turn of a worker tells what it changes. -/
theorem Worker.narrates_step {worker : Worker} {kind : Kind} {ends : Status → Report → Prop}
    {status : Status} (h : worker.process.Narrates kind ends status) (session : Session) :
    ∃ more after, (worker.step session).2.log = session.log ++ more ∧
      Leads kind status more after ∧ (worker.step session).1.process.Narrates kind ends after := by
  unfold step
  split
  · exact ⟨[], status, (List.append_nil _).symm, leads_of_moves rfl, h⟩
  · rename_i hask
    rw [hask] at h
    exact ⟨[], status, (List.append_nil _).symm, leads_of_moves rfl, h _⟩
  · rename_i effect next hact
    rw [hact] at h
    obtain ⟨after, hleads, hnext⟩ := h (session.withDrafts worker.drafts).store
    exact ⟨_, after, rfl, hleads, hnext⟩

/-- A crew that has told the changes of all its units so far: those of each follow one upon the
other, and what its worker still has to do goes on where they end. -/
structure Narrated (log : List LogEntry) (crew : Crew) (entries : List LogEntry)
    (told : Kind → Status) : Prop where
  log : crew.session.log = log ++ entries
  course : ∀ kind, Course .pending (movesOf kind entries) (told kind)
  workers : ∀ kind worker, crew.workers kind = some worker → worker.process.Narrates kind
    (fun status report => report.kind = kind ∧ report.Shows status) (told kind)
  others : ∀ kind, crew.workers kind = none → told kind = .pending

namespace Narrated

variable {log entries : List LogEntry} {crew : Crew} {told : Kind → Status}

/-- Every turn goes on where the last one has ended. -/
theorem turn (h : Narrated log crew entries told) (kind : Kind) :
    ∃ entries' told', Narrated log (crew.turn kind) entries' told' := by
  cases hworker : crew.workers kind with
  | none =>
    rw [Crew.turn_of_none hworker]
    exact ⟨entries, told, h⟩
  | some worker =>
    obtain ⟨more, after, hlog, hleads, hnext⟩ :=
      Worker.narrates_step (h.workers kind worker hworker) crew.session
    have hturn := Crew.workers_turn hworker
    refine ⟨entries ++ more, Function.update told kind after, ?_, fun other => ?_,
      fun other worker' hother => ?_, fun other hother => ?_⟩
    · rw [Crew.turn_of_some hworker, ← List.append_assoc, ← h.log]
      exact hlog
    · rw [movesOf_append]
      by_cases heq : other = kind
      · subst heq
        rw [Function.update_self]
        exact (h.course other).append hleads.course
      · -- Of the other units nothing was told.
        rw [hleads.others other heq, List.append_nil, Function.update_of_ne heq]
        exact h.course other
    · by_cases heq : other = kind
      · subst heq
        rw [hturn, if_pos rfl] at hother
        cases hother
        rw [Function.update_self]
        exact hnext
      · rw [hturn, if_neg heq] at hother
        rw [Function.update_of_ne heq]
        exact h.workers other worker' hother
    · by_cases heq : other = kind
      · rw [hturn, if_pos heq] at hother
        cases hother
      · rw [hturn, if_neg heq] at hother
        rw [Function.update_of_ne heq]
        exact h.others other hother

/-- So do any turns. -/
theorem take (h : Narrated log crew entries told) (turns : List Kind) :
    ∃ entries' told', Narrated log (crew.take turns) entries' told' :=
  Crew.take_induction (P := fun after => ∃ entries told, Narrated log after entries told)
    (fun _ kind ⟨_, _, hnarrated⟩ => hnarrated.turn kind) crew turns ⟨entries, told, h⟩

/-- A report of a worker shows where the changes have led. -/
theorem reported (h : Narrated log crew entries told) {kind : Kind} {worker : Worker}
    {report : Report} (hworker : crew.workers kind = some worker)
    (hreport : worker.report? = some report) : report.kind = kind ∧ report.Shows (told kind) := by
  have hends := h.workers kind worker hworker
  unfold Worker.report? at hreport
  split at hreport
  · rename_i hdone
    cases hreport
    rw [hdone] at hends
    exact hends
  · cases hreport

theorem reportsOwn (h : Narrated log crew entries told) : crew.ReportsOwn :=
  fun _ _ _ hworker hreport => (h.reported hworker hreport).1

end Narrated

/-- No worker leaves. -/
theorem Crew.isSome_workers_take {crew : Crew} {kind : Kind}
    (h : (crew.workers kind).isSome = true) (turns : List Kind) :
    ((crew.take turns).workers kind).isSome = true := by
  refine take_induction (P := fun after => (after.workers kind).isSome = true) ?_ crew turns h
  intro after other hsome
  cases hworker : after.workers other with
  | none => rwa [turn_of_none hworker]
  | some worker =>
    rw [workers_turn hworker]
    split
    · rfl
    · exact hsome

namespace Config

variable {config : Config} {procedure : Procedure} {session : Session}

theorem debug_of_pendingFor {backend : Backend} {kind : Kind} {p : Pending}
    (h : config.pendingFor backend session kind = some p) : p.debug = config.debug := by
  obtain ⟨fresh, hpending, -, hflags, -⟩ :=
    (Batch.submitted_submit config.order (Batch.new backend) session).pending
  have hmem := (mem_of_pendingFor h).1
  rw [dispatch, hpending] at hmem
  exact (hflags p hmem).1

/-- Before the first turn nothing has been told. -/
theorem narrated_crew (hdebug : config.debug = true) (hdiscreet : procedure.Discreet)
    (session : Session) :
    ∃ entries, Narrated session.log (config.crew procedure session) entries fun _ => .pending := by
  obtain ⟨entries, hlog, hmoves⟩ :=
    Batch.hushed_submit config.order (Batch.new procedure.backend) session
  refine ⟨entries, hlog, fun kind => ?_, fun kind worker hworker => ?_, fun _ _ => rfl⟩
  · rw [movesOf_eq_nil hmoves]
    exact .stay .pending
  · obtain ⟨p, hp, rfl⟩ := Option.map_eq_some_iff.mp hworker
    obtain ⟨hmem, rfl⟩ := mem_of_pendingFor hp
    exact Procedure.narrates_worker hdiscreet session.elapsed
      (status_of_mem_units (mem_pending_dispatch hmem).1) ((debug_of_pendingFor hp).trans hdebug)

end Config

/-! ### What is told of each unit -/

/-- What was told of a unit that is reported. -/
structure Traced (changes : List (Status × Status)) (report : Report) : Prop where
  /-- Of a unit that was rejected nothing was told, though it has failed. -/
  rejected : ∀ error, report.error = some (.config error) →
    changes = [] ∧ report.status = .failed
  /-- Of a unit that crashed it was not told that it has failed. -/
  crashed : ∀ words, report.error = some (.crashed words) →
    changes = [(.pending, .running)] ∧ report.status = .failed
  /-- Of any other unit all changes were told, from the beginning to the end. -/
  told : report.Compiled → Course .pending changes report.status ∧ report.status.isTerminal = true

theorem Report.Shows.traced {report : Report} {status : Status} {changes : List (Status × Status)}
    (h : report.Shows status) (hcourse : Course .pending changes status) :
    Traced changes report := by
  cases h with
  | @rejected error herror hfailed =>
    refine ⟨fun _ _ => ⟨?_, hfailed⟩, fun words hwords => ?_, fun hcompiled => ?_⟩
    · rcases hcourse.of_pending with ⟨rfl, -⟩ | ⟨-, ⟨⟩⟩ | ⟨-, ⟨⟩⟩ | ⟨-, ⟨⟩⟩
      rfl
    · cases herror.symm.trans hwords
    · obtain ⟨_, ⟨⟩⟩ := hcompiled _ herror
  | @crashed words herror hfailed =>
    refine ⟨fun error hconfig => ?_, fun _ _ => ⟨?_, hfailed⟩, fun hcompiled => ?_⟩
    · cases herror.symm.trans hconfig
    · rcases hcourse.of_pending with ⟨-, ⟨⟩⟩ | ⟨-, ⟨⟩⟩ | ⟨rfl, -⟩ | ⟨-, ⟨⟩⟩
      rfl
    · obtain ⟨_, ⟨⟩⟩ := hcompiled _ herror
  | ended hcompiled hstatus hterminal =>
    subst hstatus
    refine ⟨fun error hconfig => ?_, fun words hwords => ?_, fun _ => ⟨hcourse, hterminal⟩⟩
    · obtain ⟨_, ⟨⟩⟩ := hcompiled _ hconfig
    · obtain ⟨_, ⟨⟩⟩ := hcompiled _ hwords

/-- With debugging on the changes of each unit are told from the beginning, whatever turns the
workers have taken. Once it is reported they lead to the status in the report, unless it was
rejected or its worker crashed. -/
theorem traced_crew {config : Config} (hdebug : config.debug = true) {procedure : Procedure}
    (hdiscreet : procedure.Discreet) (session : Session) (turns : List Kind) :
    let crew := (config.crew procedure session).take turns
    ∃ entries, crew.session.log = session.log ++ entries ∧
      ∀ u ∈ config.units,
        (∃ status, Course .pending (movesOf u.kind entries) status) ∧
        (∀ report, crew.results.get? u.kind = some report →
          Traced (movesOf u.kind entries) report) ∧
        (crew.Finished → ∃ report, crew.results.get? u.kind = some report) := by
  intro crew
  obtain ⟨_, hbegun⟩ := Config.narrated_crew hdebug hdiscreet session
  obtain ⟨entries, told, htold⟩ := hbegun.take turns
  refine ⟨entries, htold.log, fun u hu => ⟨⟨told u.kind, htold.course u.kind⟩, ?_⟩⟩
  have hget := Crew.get?_results htold.reportsOwn u.kind
  rw [Crew.recorded_take] at hget
  cases hresolve : u.resolve session.store with
  | error error =>
    -- There is no worker that could have told anything.
    have hnone := Crew.workers_take_of_none (Config.workers_of_rejected procedure hu hresolve) turns
    rw [hnone, Config.recorded_of_rejected procedure hu hresolve,
      u.rejection_eq (Config.status_of_mem_units hu)] at hget
    have hcourse := htold.course u.kind
    rw [htold.others u.kind hnone] at hcourse
    refine ⟨fun report hreport => ?_, fun _ => ⟨_, hget⟩⟩
    cases hget.symm.trans hreport
    exact Report.Shows.traced (.rejected rfl rfl) hcourse
  | ok _ =>
    obtain ⟨p, hp, -⟩ : ∃ p, config.pendingFor procedure.backend session u.kind = some p ∧
        p.unit = u := Config.pendingFor_of_resolves hu hresolve
    have hstart : (config.crew procedure session).workers u.kind =
        some (.start procedure session.elapsed p) := congrArg (Option.map _) hp
    obtain ⟨worker, hworker⟩ := Option.isSome_iff_exists.mp
      (Crew.isSome_workers_take (Option.isSome_of_mem hstart) turns)
    rw [hworker, Config.recorded_of_resolves procedure hu hresolve, Option.or_none] at hget
    refine ⟨fun report hreport => ?_, fun hfinished => ?_⟩
    · exact (htold.reported hworker (hget.symm.trans hreport)).2.traced (htold.course u.kind)
    · obtain ⟨report, hreport⟩ := Option.isSome_iff_exists.mp (hfinished u.kind worker hworker)
      exact ⟨report, hget.trans hreport⟩

/-- Two documents of which the second one has no source, with debugging on. -/
def loudConfig : Config :=
  { sampleConfig with debug := true }

/-- A session in which the first of the two sources is an empty document. -/
def loudSession : Session :=
  .start ⟨[([], .folder), ([Utf8.encode "cv.json"], .file (Utf8.encode "\x7b\x7d"))], [], [],
    fun _ => none⟩

/-- A procedure that crashes without a word. -/
def crashingProcedure : Procedure := ⟨"crashing", fun _ _ => .done (.crashed none)⟩

/-- The first document is compiled. -/
theorem traced_crew_document :
    let crew := (loudConfig.crew (.document .standard) loudSession).take (List.replicate 24 .cv)
    loudConfig.debug = true ∧ (Procedure.document .standard).Discreet ∧
      (crew.results.get? .cv).map Report.status = some .succeeded ∧
      movesOf .cv crew.session.log = [(.pending, .running), (.running, .succeeded)] ∧
      ∃ entries, crew.session.log = [] ++ entries ∧
        ∀ u ∈ loudConfig.units,
          (∃ status, Course .pending (movesOf u.kind entries) status) ∧
          (∀ report, crew.results.get? u.kind = some report →
            Traced (movesOf u.kind entries) report) ∧
          (crew.Finished → ∃ report, crew.results.get? u.kind = some report) := by
  have hdiscreet := Procedure.discreet_document .standard
  refine ⟨rfl, hdiscreet, ?_, ?_, traced_crew rfl hdiscreet _ _⟩ <;> decide +kernel

/-- A change that is not told: the second document is rejected, and nothing is told of it. -/
theorem not_forall_traced :
    ¬∀ (config : Config) (procedure : Procedure) (session : Session) (turns : List Kind)
      (entries : List LogEntry), config.debug = true → procedure.Discreet →
      ((config.crew procedure session).take turns).session.log = session.log ++ entries →
      ∀ u ∈ config.units, ∀ report,
        ((config.crew procedure session).take turns).results.get? u.kind = some report →
        Course .pending (movesOf u.kind entries) report.status := by
  intro h
  let u := WorkUnit.new .coverLetter (Path.ofText "letter.json")
    (loudConfig.outputPath .coverLetter) loudConfig.options
  have hcourse := h loudConfig crashingProcedure loudSession [] _ rfl (fun _ _ _ => trivial) rfl u
    (Config.mem_units.mpr ⟨_, rfl, rfl⟩) _ rfl
  cases hcourse

/-- Nor is it told that a unit has failed whose worker crashed. -/
example :
    let crew := (loudConfig.crew crashingProcedure loudSession).take [.cv, .cv, .cv]
    (crew.results.get? .cv).map Report.status = some .failed ∧
      movesOf .cv crew.session.log = [(.pending, .running)] := by
  decide +kernel

end Vitae
