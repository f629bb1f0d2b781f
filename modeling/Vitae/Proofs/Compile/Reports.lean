import Mathlib.Data.List.Basic
import Mathlib.Tactic.SplitIfs
import Vitae.Compile.Batch
import Vitae.Proofs.Compile.Cancellation

/-!
# Reports

A report that is recorded replaces an earlier one of its kind and leaves the other kind
alone, so results to which reports of different kinds have been added hold all of them.
The verdict depends on nothing but the states that are reported.

A worker reports how the call of the backend has ended (`work_eq`), unless it was
asked to stop before. The reports of all workers go with the tickets of their units, so
the report on a unit is found whatever the order in which the units were run
(`lookup_workAll`).

## Main definitions

* `Results.recordEach`: Results with the reports on some things.
* `Results.Has`: A state that some unit has ended in.
* `Report.Reflects`: A report that tells how a compilation has ended.
* `Report.Sound`: A report whose parts go together.
* `Session.Calm`, `Backend.KeepsCalm`: A session that no one asks to stop, and a backend
  that does not ask either.
* `Batch.callSession`, `Batch.callFor`: The call of the backend for a unit.

## Theorems

* `Results.get?_record`: What a report changes.
* `Results.exitCode_eq`: The verdict.
* `WorkUnit.conclude_cases`, `Batch.work_eq`: What a worker reports.
* `Batch.lookup_workAll`: Where the report on a unit is found.
* `Results.get?_recordEach_of_mem`, `Results.get?_recordEach_of_notMem`: What is recorded.
-/

namespace Vitae

/-! ### Results -/

namespace Results

variable {results : Results} {report : Report} {kind : Kind}

/-- A report replaces an earlier one of its kind and no other. -/
theorem get?_record (results : Results) (report : Report) (kind : Kind) :
    (results.record report).get? kind =
      if report.kind = kind then some report else results.get? kind := by
  unfold record
  cases hkind : report.kind <;> cases kind <;> rfl

theorem get?_record_self (h : report.kind = kind) :
    (results.record report).get? kind = some report := by
  rw [get?_record, if_pos h]

theorem get?_record_of_ne (h : report.kind ≠ kind) :
    (results.record report).get? kind = results.get? kind := by
  rw [get?_record, if_neg h]

theorem mem_toList : report ∈ results.toList ↔ ∃ kind, results.get? kind = some report := by
  unfold toList
  rw [List.mem_append, Option.mem_toList, Option.mem_toList]
  constructor
  · rintro (h | h)
    · exact ⟨.cv, h⟩
    · exact ⟨.coverLetter, h⟩
  · rintro ⟨kind, h⟩
    cases kind with
    | cv => exact .inl h
    | coverLetter => exact .inr h

/-- The results with the reports on some things, of those that there is a report on. -/
def recordEach {α : Type} (reportOn : α → Option Report) (xs : List α) (results : Results) : Results :=
  xs.foldl
    (fun results x =>
      match reportOn x with
      | some report => results.record report
      | none => results)
    results

section RecordEach

variable {α : Type} {reportOn : α → Option Report} {xs : List α}

theorem recordEach_cons (x : α) (xs : List α) (results : Results) :
    recordEach reportOn (x :: xs) results =
      recordEach reportOn xs
        (match reportOn x with
        | some report => results.record report
        | none => results) :=
  rfl

/-- Nothing is recorded of a kind that no report has. -/
theorem get?_recordEach_of_notMem
    (hkinds : ∀ x ∈ xs, ∀ report, reportOn x = some report → report.kind ≠ kind) :
    (recordEach reportOn xs results).get? kind = results.get? kind := by
  induction xs generalizing results with
  | nil => rfl
  | cons x rest ih =>
    have hrest : ∀ r : Results, (recordEach reportOn rest r).get? kind = r.get? kind :=
      fun r => ih fun y hy => hkinds y (List.mem_cons_of_mem x hy)
    rw [recordEach_cons, hrest]
    cases hreport : reportOn x with
    | none => rfl
    | some report => exact get?_record_of_ne (hkinds x List.mem_cons_self report hreport)

/-- A report is recorded if nothing else is of its kind. -/
theorem get?_recordEach_of_mem (kindOf : α → Kind) {x : α}
    (hkinds : ∀ x ∈ xs, ∀ report, reportOn x = some report → report.kind = kindOf x)
    (hdistinct : (xs.map kindOf).Nodup) (hmem : x ∈ xs) (hreport : reportOn x = some report) :
    (recordEach reportOn xs results).get? (kindOf x) = some report := by
  induction xs generalizing results with
  | nil => cases hmem
  | cons y rest ih =>
    have hrest : ∀ z ∈ rest, ∀ report, reportOn z = some report → report.kind = kindOf z :=
      fun z hz => hkinds z (List.mem_cons_of_mem y hz)
    rw [List.map_cons, List.nodup_cons] at hdistinct
    rw [recordEach_cons]
    rcases List.mem_cons.mp hmem with rfl | hmem
    · -- What follows is of another kind.
      rw [get?_recordEach_of_notMem, hreport]
      · exact get?_record_self (hkinds x List.mem_cons_self report hreport)
      · intro z hz other hother
        rw [hrest z hz other hother]
        exact fun heq => hdistinct.1 (heq ▸ List.mem_map_of_mem hz)
    · exact ih hrest hdistinct.2 hmem

end RecordEach

/-- Some unit has ended in the given state. -/
def Has (results : Results) (status : Status) : Prop :=
  ∃ kind report, results.get? kind = some report ∧ report.status = status

theorem count_pos_iff {status : Status} : 0 < results.count status ↔ results.Has status := by
  rw [count, List.length_pos_iff_exists_mem]
  constructor
  · rintro ⟨report, h⟩
    obtain ⟨hmem, hstatus⟩ := List.mem_filter.mp h
    obtain ⟨kind, hkind⟩ := mem_toList.mp hmem
    exact ⟨kind, report, hkind, beq_iff_eq.mp hstatus⟩
  · rintro ⟨kind, report, hkind, rfl⟩
    exact ⟨report, List.mem_filter.mpr ⟨mem_toList.mpr ⟨kind, hkind⟩, beq_self_eq_true _⟩⟩

/-- The verdict: a failure counts more than an interruption. -/
theorem exitCode_eq (results : Results) :
    (results.Has .failed → results.exitCode = 1) ∧
      (¬results.Has .failed → results.Has .interrupted → results.exitCode = 130) ∧
      (¬results.Has .failed → ¬results.Has .interrupted → results.exitCode = 0) := by
  unfold exitCode
  rw [← count_pos_iff, ← count_pos_iff]
  refine ⟨fun h => if_pos h, fun h h' => ?_, fun h h' => ?_⟩
  · rw [if_neg h, if_pos h']
  · rw [if_neg h, if_neg h']

end Results

/-! ### One worker -/

/-- A report that tells how a compilation has ended. -/
def Report.Reflects (report : Report) : Ending → Prop
  | .completed output _ =>
    report.status = .succeeded ∧ report.output = some output ∧ report.error = none
  | .interrupted _ => report.status = .interrupted ∧ report.output = none ∧ report.error = none
  | .failed error =>
    report.status = .failed ∧ report.output = none ∧ report.error = some (.render error) ∧
      report.error.map UnitError.code = some "RENDER_ERROR"
  | .crashed words =>
    report.status = .failed ∧ report.output = none ∧
      report.error = some (.crashed (Batch.crashWords words)) ∧
      report.error.map UnitError.code = some "WORKER_PANIC"

/-- A report on an end that has an output if it is a success, and an error if it is a
failure. -/
structure Report.Sound (report : Report) : Prop where
  terminal : report.status.isTerminal = true
  output : report.output.isSome = true ↔ report.status = .succeeded
  error : report.error.isSome = true ↔ report.status = .failed

theorem Report.Reflects.sound {report : Report} {ending : Ending} (h : report.Reflects ending) :
    report.Sound := by
  have hnone : ∀ {α : Type} {status expected : Status}, status ≠ expected →
      ((none : Option α).isSome = true ↔ status = expected) :=
    fun hne => iff_of_false Bool.false_ne_true hne
  obtain ⟨kind, source, status, output, error, elapsed⟩ := report
  cases ending with
  | completed _ _ =>
    obtain ⟨rfl, rfl, rfl⟩ := h
    exact ⟨rfl, iff_of_true rfl rfl, hnone nofun⟩
  | interrupted _ =>
    obtain ⟨rfl, rfl, rfl⟩ := h
    exact ⟨rfl, hnone nofun, hnone nofun⟩
  | failed _ =>
    obtain ⟨rfl, rfl, rfl, -⟩ := h
    exact ⟨rfl, hnone nofun, iff_of_true rfl rfl⟩
  | crashed _ =>
    obtain ⟨rfl, rfl, rfl, -⟩ := h
    exact ⟨rfl, hnone nofun, iff_of_true rfl rfl⟩

/-- A session that no one asks to stop, now or later. -/
structure Session.Calm (session : Session) : Prop where
  token : session.token.isCancelled = false
  outside : ∀ n, session.outside n = false

/-- A backend that does not ask anyone to stop. -/
def Backend.KeepsCalm (backend : Backend) : Prop :=
  ∀ job context session, session.Calm → (backend.render job context session).2.Calm

namespace Session

theorem calm_noteAll {session : Session} {entries : List LogEntry} (h : session.Calm) :
    (session.noteAll entries).Calm :=
  ⟨h.token, h.outside⟩

theorem calm_trace {session : Session} {context : Context} {message : String} (h : session.Calm) :
    (session.trace context message).Calm := by
  rw [trace_eq]
  exact calm_noteAll h

theorem calm_polled {session : Session} (h : session.Calm) : session.polled.Calm :=
  ⟨h.token, h.outside⟩

/-- No one is asked to stop in a calm session, nor if requests are not heeded. -/
theorem answer_eq_false {session : Session} {context : Context}
    (h : context.armed = true → session.Calm) : session.answer context 0 = false := by
  unfold answer
  cases harmed : context.armed with
  | false => rfl
  | true =>
    have hcalm := h harmed
    rw [hcalm.token, hcalm.outside, Bool.or_self, Bool.and_false]

end Session

namespace Session

theorem noteAll_nil (session : Session) : session.noteAll [] = session :=
  congrArg (fun log => { session with log := log }) (List.append_nil _)

theorem noteAll_noteAll (session : Session) (xs ys : List LogEntry) :
    (session.noteAll xs).noteAll ys = session.noteAll (xs ++ ys) :=
  congrArg (fun log => { session with log := log }) (List.append_assoc _ _ _)

theorem note_trace (session : Session) (context : Context) (message : String) (entry : LogEntry) :
    (session.trace context message).note entry =
      session.noteAll (traceNotes context message ++ [entry]) := by
  rw [trace_eq]
  exact noteAll_noteAll _ _ _

end Session

namespace WorkUnit

variable {u : WorkUnit}

theorem transition_eq {next : Status} (h : u.status.canAdvanceTo next = true) (context : Context)
    (session : Session) :
    u.transition next context session =
      ({ u with status := next },
        session.trace context ("status " ++ u.status.name ++ " -> " ++ next.name)) := by
  unfold transition advance
  rw [if_pos h]

@[simp]
theorem job_transition (u : WorkUnit) (next : Status) (context : Context) (session : Session) :
    (u.transition next context session).1.job = u.job := by
  unfold transition advance
  split_ifs <;> rfl

/-- The report on a unit that was asked to stop before it began. -/
theorem cancelBeforeStart_eq (h : u.status = .pending) (context : Context) (session : Session) :
    ∃ entries, u.cancelBeforeStart context session =
      (⟨u.kind, u.source, .interrupted, none, none, 0⟩, session.noteAll entries) := by
  have hadvance : u.status.canAdvanceTo .interrupted = true := by
    rw [h]
    rfl
  unfold cancelBeforeStart
  rw [transition_eq hadvance]
  simp only [Session.note_trace]
  exact ⟨_, rfl⟩

/-- Backends that do the same for a unit make no difference to it. -/
theorem execute_congr {backend other : Backend} (hname : other.name = backend.name)
    (hrender : other.render u.job = backend.render u.job) (context : Context) (session : Session) :
    u.execute other context session = u.execute backend context session := by
  have hjob := u.job_transition .running context session
  unfold execute
  generalize u.transition .running context session = running at hjob
  simp only [hname, hjob, hrender]

/-- A unit that is running ends as its compilation does, or crashes with it. -/
theorem conclude_cases (hstatus : u.status = .running) (context : Context) (ending : Ending)
    (session : Session) :
    (∃ words, ending = .crashed words ∧ u.conclude context ending session = (.error words, session)) ∨
      ∃ report entries, u.conclude context ending session = (.ok report, session.noteAll entries) ∧
        report.kind = u.kind ∧ report.source = u.source ∧ report.Reflects ending := by
  have hadvance : ∀ next : Status, next.isTerminal = true → u.status.canAdvanceTo next = true := by
    intro next hnext
    rw [hstatus]
    exact hnext
  unfold conclude
  cases ending with
  | completed output pages =>
    simp only [transition_eq (hadvance .succeeded rfl), Session.note_trace]
    exact .inr ⟨_, _, rfl, rfl, rfl, rfl, rfl, rfl⟩
  | interrupted stage =>
    simp only [transition_eq (hadvance .interrupted rfl), Session.note_trace]
    exact .inr ⟨_, _, rfl, rfl, rfl, rfl, rfl, rfl⟩
  | failed error =>
    simp only [transition_eq (hadvance .failed rfl), Session.note_trace]
    exact .inr ⟨_, _, rfl, rfl, rfl, rfl, rfl, rfl, rfl⟩
  | crashed words => exact .inl ⟨words, rfl, rfl⟩

end WorkUnit

namespace Batch

variable {backend : Backend} {pending : Pending} {session : Session}

/-- What a unit under way sees of a session. -/
def contextOf (pending : Pending) : Context :=
  ⟨pending.unit.kind, pending.debug, pending.interrupt⟩

/-- The session in which the backend is called for a unit. -/
def callSession (backend : Backend) (pending : Pending) (session : Session) : Session :=
  ((pending.unit.transition .running (contextOf pending) session.polled).2).trace
    (contextOf pending) ("invoking " ++ backend.name ++ " backend")

theorem calm_callSession (h : session.Calm) : (callSession backend pending session).Calm := by
  unfold callSession WorkUnit.transition
  split
  · exact Session.calm_trace (Session.calm_trace (Session.calm_polled h))
  · exact Session.calm_trace (Session.calm_polled h)

/-- The call of the backend for a unit. -/
def callFor (backend : Backend) (pending : Pending) (session : Session) : Ending × Session :=
  backend.render pending.unit.job (contextOf pending) (callSession backend pending session)

/-- The report of a worker on a unit that has been executed. -/
def reportOf (u : WorkUnit) : Except (Option String) Report × Session → Report × Session
  | (.ok report, session) => (report, session)
  | (.error words, session) =>
    (.ofCrash u.kind u.source (crashWords words),
      session.note (entry .error "unit failed"
        [("unit", .plain u.kind.code), ("code", .quoted "WORKER_PANIC"),
          ("error", .plain (crashWords words))]))

/-- A worker asks first, and executes its unit if it is told to go on. -/
theorem work_eq_ite (backend : Backend) (pending : Pending) (session : Session) :
    work backend pending session =
      if session.answer (contextOf pending) 0 then
        pending.unit.cancelBeforeStart (contextOf pending) session.polled
      else reportOf pending.unit
        (pending.unit.execute backend (contextOf pending) session.polled) := by
  have hpoll : session.poll ⟨pending.unit.kind, pending.debug, pending.interrupt⟩ =
      (session.answer (contextOf pending) 0, session.polled) :=
    rfl
  unfold work
  simp only [hpoll]
  cases session.answer (contextOf pending) 0 <;> rfl

/-- A worker that is not asked to stop calls the backend and reports how that ends. -/
theorem work_eq (backend : Backend) (hstatus : pending.unit.status = .pending)
    (hanswer : session.answer (contextOf pending) 0 = false) :
    ∃ report entries,
      work backend pending session = (report, (callFor backend pending session).2.noteAll entries) ∧
      report.kind = pending.unit.kind ∧ report.source = pending.unit.source ∧
      report.Reflects (callFor backend pending session).1 := by
  have hadvance : pending.unit.status.canAdvanceTo .running = true := by
    rw [hstatus]
    rfl
  have hrunning := WorkUnit.transition_eq hadvance (contextOf pending) session.polled
  have hexecute : pending.unit.execute backend (contextOf pending) session.polled =
      WorkUnit.conclude { pending.unit with status := .running } (contextOf pending)
        (callFor backend pending session).1 (callFor backend pending session).2 := by
    unfold WorkUnit.execute callFor callSession
    rw [hrunning]
    rfl
  rw [work_eq_ite, hanswer, if_neg Bool.false_ne_true, hexecute]
  rcases WorkUnit.conclude_cases (u := { pending.unit with status := .running }) rfl
    (contextOf pending) (callFor backend pending session).1
    (callFor backend pending session).2 with ⟨words, hending, hconclude⟩ | ⟨report, entries,
      hconclude, hkind, hsource, hreflects⟩
  · rw [hconclude, hending]
    exact ⟨_, [_], rfl, rfl, rfl, rfl, rfl, rfl, rfl⟩
  · rw [hconclude]
    exact ⟨report, entries, rfl, hkind, hsource, hreflects⟩

/-- A worker reports on its own unit. -/
theorem kind_work (backend : Backend) (hstatus : pending.unit.status = .pending)
    (session : Session) : (work backend pending session).1.kind = pending.unit.kind := by
  cases hanswer : session.answer (contextOf pending) 0 with
  | true =>
    obtain ⟨_, hcancel⟩ := WorkUnit.cancelBeforeStart_eq hstatus (contextOf pending) session.polled
    rw [work_eq_ite, hanswer, if_pos rfl, hcancel]
  | false =>
    obtain ⟨_, _, hwork, hkind, -⟩ := work_eq backend hstatus hanswer
    rw [hwork]
    exact hkind

theorem calm_work (hstatus : pending.unit.status = .pending) (hkeeps : backend.KeepsCalm)
    (h : session.Calm) : (work backend pending session).2.Calm := by
  obtain ⟨report, entries, hwork, -⟩ := work_eq backend hstatus
    (Session.answer_eq_false fun _ => h)
  rw [hwork]
  exact Session.calm_noteAll (hkeeps _ _ _ (calm_callSession h))

/-! ### All workers -/

/-- Workers whose backend asks no one to stop leave a session calm. -/
theorem calm_workAll (hkeeps : backend.KeepsCalm) {schedule : List Pending}
    (hstatus : ∀ p ∈ schedule, p.unit.status = .pending) (h : session.Calm) :
    (workAll backend schedule session).2.Calm := by
  induction schedule generalizing session with
  | nil => exact h
  | cons p rest ih =>
    exact ih (fun q hq => hstatus q (List.mem_cons_of_mem p hq))
      (calm_work (hstatus p List.mem_cons_self) hkeeps h)

theorem workAll_cons (backend : Backend) (p : Pending) (rest : List Pending) (session : Session) :
    workAll backend (p :: rest) session =
      ((p.ticket, (work backend p session).1) :: (workAll backend rest (work backend p session).2).1,
        (workAll backend rest (work backend p session).2).2) :=
  rfl

/-- The report on a unit is the one of its worker, who comes after those before it. -/
theorem lookup_workAll {before after : List Pending} (h : ∀ p ∈ before, p.ticket ≠ pending.ticket)
    (session : Session) :
    (workAll backend (before ++ pending :: after) session).1.lookup pending.ticket =
      some (work backend pending (workAll backend before session).2).1 := by
  induction before generalizing session with
  | nil => exact List.lookup_cons_self
  | cons p before ih =>
    have hne : (pending.ticket == p.ticket) = false :=
      beq_eq_false_iff_ne.mpr (Ne.symm (h p List.mem_cons_self))
    have hrest := ih (fun q hq => h q (List.mem_cons_of_mem p hq)) (work backend p session).2
    rw [List.cons_append, workAll_cons, List.lookup_cons, hne]
    exact hrest

/-- Each report is found with the unit it is on. -/
theorem kind_of_lookup_workAll {schedule : List Pending}
    (htickets : (schedule.map Pending.ticket).Nodup)
    (hstatus : ∀ p ∈ schedule, p.unit.status = .pending) {p : Pending} (hp : p ∈ schedule)
    {report : Report} (h : (workAll backend schedule session).1.lookup p.ticket = some report) :
    report.kind = p.unit.kind := by
  obtain ⟨before, after, rfl⟩ := List.append_of_mem hp
  rw [List.map_append, List.map_cons, List.nodup_append] at htickets
  have hbefore : ∀ q ∈ before, q.ticket ≠ p.ticket := fun q hq =>
    htickets.2.2 _ (List.mem_map_of_mem hq) _ List.mem_cons_self
  rw [lookup_workAll hbefore] at h
  cases h
  exact kind_work backend (hstatus p hp) _

/-- Recording the reports on units looks them up by their tickets. -/
theorem recordAll_eq (reports : List (Nat × Report)) (pending : List Pending) (results : Results) :
    recordAll reports pending results =
      Results.recordEach (fun p => reports.lookup p.ticket) pending results :=
  rfl

theorem work_congr {other : Backend} (hname : other.name = backend.name)
    (hrender : other.render pending.unit.job = backend.render pending.unit.job) (session : Session) :
    work other pending session = work backend pending session := by
  unfold work
  simp only [WorkUnit.execute_congr hname hrender]

theorem workAll_congr {other : Backend} (hname : other.name = backend.name)
    {schedule : List Pending}
    (hrender : ∀ p ∈ schedule, other.render p.unit.job = backend.render p.unit.job)
    (session : Session) : workAll other schedule session = workAll backend schedule session := by
  induction schedule generalizing session with
  | nil => rfl
  | cons p rest ih =>
    have hrest := ih fun q hq => hrender q (List.mem_cons_of_mem p hq)
    simp only [workAll, work_congr hname (hrender p List.mem_cons_self), hrest]

end Batch

end Vitae
