import Vitae.Proofs.Compile.Independence
import Vitae.Proofs.Compile.Shadow

/-!
# The Trace of a Unit

With debugging on, a unit logs more and does the same. What it logs in addition is its trace;
without it the log is the one that the unit leaves with debugging off. Of that one entry
carries the tag of the unit, the last one, which tells how the unit has ended. A unit that was
waiting and is executed tells that it begins to run, then the stages that it enters, and then
how it ends (`Chronicle`).

What there is to tell does not depend on the time it takes, so it is put down once for every
time (`Account`), and a run with debugging on and a run with debugging off both give it.

The level of the last entry goes with the end of the unit, and that is what the report tells,
unless the unit had ended before. A status that is an end is never left, so the report on such
a unit keeps it, whatever the last entry tells (`not_forall_level`).

## Main definitions

* `Ending.outcome`, `WorkUnit.closingEntry`: What becomes of a unit, and the entry about it.
* `WorkUnit.Way`, `WorkUnit.close`: The ways in which a unit ends.
* `WorkUnit.Account`: What there is to tell about the end of a unit.
* `WorkUnit.Told`, `WorkUnit.Chronicle`, `WorkUnit.Faithful`: What the logs of a unit tell.

## Theorems

* `WorkUnit.conclude_eq`: The end of a unit, whatever it is.
* `WorkUnit.exists_account`: Both runs give the same account.
* `WorkUnit.chronicle_of_trail`: What an executed unit tells from beginning to end.
* `WorkUnit.faithful_close`: Debugging only adds the trace, and the trace is true.
* `WorkUnit.not_forall_level`: The last entry and the report of a unit that had ended before.
-/

namespace Vitae

/-- The level at which the end of a unit is logged. -/
def Status.closingLevel : Status → Option Level
  | .succeeded => some .info
  | .interrupted => some .warning
  | .failed => some .error
  | .pending | .running => none

/-- An entry without the time that is told in it. -/
def LogEntry.untimed (entry : LogEntry) : LogEntry :=
  { entry with fields := entry.fields.filter fun field => field.1 != "elapsed_ms" }

namespace Ending

/-- What becomes of a unit with this end. -/
def outcome : Ending → Status
  | .completed _ _ => .succeeded
  | .interrupted _ => .interrupted
  | .failed _ | .crashed _ => .failed

/-- The file that a unit with this end leaves. -/
def file : Ending → Option Path
  | .completed output _ => some output
  | _ => none

/-- The error that a unit with this end reports. -/
def failure : Ending → Option UnitError
  | .failed error => some (.render error)
  | .crashed words => some (.crashed (Batch.crashWords words))
  | _ => none

end Ending

namespace WorkUnit

/-- The last entry about a unit that was executed. -/
def closingEntry (u : WorkUnit) (elapsed : Nat) : Ending → LogEntry
  | .completed output pages =>
    u.entry .info "unit succeeded"
      [("output", .plain output.display), ("pages", .number pages),
        ("elapsed_ms", .number (elapsed / 1000))]
  | .interrupted stage => u.entry .warning "unit interrupted" [("stage", .plain stage.name)]
  | .failed error => u.failureEntry (.render error)
  | .crashed words => u.failureEntry (.crashed (Batch.crashWords words))

/-- The trace of a change of status, if the unit can go there. -/
def moveNotes (u : WorkUnit) (next : Status) : List LogEntry :=
  if u.status.canAdvanceTo next then [LogEntry.ofMove u.kind u.status next] else []

variable {u : WorkUnit}

@[simp]
theorem kind_advance (u : WorkUnit) (next : Status) : (u.advance next).2.kind = u.kind := by
  unfold advance
  split <;> rfl

/-- An end is final, and from anything else a unit can come to any end. -/
theorem status_advance (u : WorkUnit) {next : Status} (h : next.isTerminal = true) :
    (u.advance next).2.status = if u.status.isTerminal then u.status else next := by
  unfold advance
  cases hstatus : u.status <;> cases next <;> simp_all [Status.canAdvanceTo, Status.isTerminal]

variable {kind : Kind}

theorem transition_loud (hkind : u.kind = kind) (next : Status) (armed : Bool) (session : Session) :
    u.transition next ⟨kind, true, armed⟩ session =
      ((u.advance next).2, session.noteAll (u.moveNotes next)) := by
  subst hkind
  by_cases h : u.status.canAdvanceTo next = true
  · rw [transition_eq h, moveNotes, advance, if_pos h, if_pos h]
    rfl
  · unfold transition moveNotes advance
    rw [if_neg h, if_neg h, Session.noteAll_nil]

theorem transition_quiet (next : Status) (armed : Bool) (session : Session) :
    u.transition next ⟨kind, false, armed⟩ session = ((u.advance next).2, session) := by
  by_cases h : u.status.canAdvanceTo next = true
  · rw [transition_eq h, advance, if_pos h]
    rfl
  · unfold transition advance
    rw [if_neg h]

/-- The end of a unit, whatever it is: the unit goes there, and one more entry is logged. -/
theorem conclude_eq (u : WorkUnit) (context : Context) {ending : Ending}
    (h : ∀ words, ending ≠ .crashed words) (session : Session) :
    u.conclude context ending session =
      (.ok ((u.transition ending.outcome context session).1.report ending.file ending.failure
          (session.elapsed u.kind)),
        (u.transition ending.outcome context session).2.note
          (u.closingEntry (session.elapsed u.kind) ending)) := by
  cases ending with
  | crashed words => exact absurd rfl (h words)
  | _ => rfl

/-- The ways in which a unit ends. -/
inductive Way where
  /-- It never began, for the given reason. -/
  | reject (error : UnitError)
  /-- It was asked to stop before it began. -/
  | cancel
  /-- It was compiled. -/
  | execute

/-- What can become of a unit that ends in a way. -/
def Way.outcomes : Way → List Status
  | .reject _ => [.failed]
  | .cancel => [.interrupted]
  | .execute => [.succeeded, .interrupted, .failed]

/-- Ends a unit in the given way. Documents are laid out on pages of the given measures. -/
def close (page : PageConfig) (u : WorkUnit) (way : Way) (debug armed : Bool) (session : Session) :
    Except (Option String) Report × Session :=
  let context : Context := ⟨u.kind, debug, armed⟩
  match way with
  | .reject error =>
    let (report, session) := u.reject error session
    (.ok report, session)
  | .cancel =>
    let (report, session) := u.cancelBeforeStart context session
    (.ok report, session)
  | .execute => u.execute (.document page) context session

/-- How the end of a unit is told by its report and by the last entry about it. -/
structure Told (u : WorkUnit) (outcome : Status) (report : Report) (line : LogEntry) : Prop where
  /-- A unit that had ended before keeps its status. -/
  status : report.status = if u.status.isTerminal then u.status else outcome
  output : report.output.isSome = true ↔ outcome = .succeeded
  error : report.error.isSome = true ↔ outcome = .failed
  level : outcome.closingLevel = some line.level
  tagged : line.tagged u.kind = true
  moved : line.moved? = none
  entered : line.entered? = none

/-- The log of a unit that was waiting and has been executed. -/
structure Chronicle (kind : Kind) (status : Status) (entries : List LogEntry) : Prop where
  /-- It begins to run, comes to an end, and goes nowhere else. -/
  moves : moves entries = [(.pending, .running), (.running, status)]
  first : ∃ move rest, entries = move :: rest ∧ move.moved? = some (.pending, .running)
  stages : enteredStages entries <+: Stage.all
  last : ∃ earlier move line, entries = earlier ++ [move, line] ∧
    move.moved? = some (.running, status) ∧ line.tagged kind = true ∧
    status.closingLevel = some line.level
  traced : ∀ entry ∈ entries, entry.moved? ≠ none ∨ entry.entered? ≠ none → entry.traces kind = true

/-- What there is to tell about the end of a unit, whatever time it takes. -/
structure Account where
  outcome : Status
  /-- What is logged before the last entry, with debugging on. -/
  head : List LogEntry
  report : Nat → Report
  line : Nat → LogEntry

namespace Account

/-- An account that goes with a unit and the way in which it ends. -/
structure Valid (account : Account) (u : WorkUnit) (way : Way) : Prop where
  outcome : account.outcome ∈ way.outcomes
  told : ∀ time, Told u account.outcome (account.report time) (account.line time)
  report_untimed : ∀ time time', (account.report time).untimed = (account.report time').untimed
  line_untimed : ∀ time time', (account.line time).untimed = (account.line time').untimed
  timed : ∀ time time', (account.report time).elapsed = (account.report time').elapsed →
    account.report time = account.report time' ∧ account.line time = account.line time'
  traced : ∀ entry ∈ account.head,
    entry.traces u.kind = true ∨ entry.tagged u.kind = false ∧ entry.entered? = none

/-- The account that a run with debugging on and one with debugging off give of the same end.
They may take different times. -/
def Given (account : Account) (page : PageConfig) (u : WorkUnit) (way : Way) (armed : Bool)
    (session : Session) : Prop :=
  ∃ after : Session,
    u.close page way true armed session =
      (.ok (account.report (session.elapsed u.kind)),
        { after with
          log := session.log ++ (account.head ++ [account.line (session.elapsed u.kind)])
          elapsed := session.elapsed }) ∧
    ∀ clock : Kind → Nat, u.close page way false armed { session with elapsed := clock } =
      (.ok (account.report (clock u.kind)),
        { after with
          log := session.log ++ (muted u.kind account.head ++ [account.line (clock u.kind)])
          elapsed := clock })

end Account

theorem tagged_entry (u : WorkUnit) (level : Level) (message : String)
    (fields : List (String × LogValue)) : (u.entry level message fields).tagged u.kind = true := by
  simp [entry, LogEntry.tagged]

/-- The last entry about a unit tells neither a change of status nor a stage. -/
theorem silent_entry (u : WorkUnit) (level : Level) {message : String}
    (fields : List (String × LogValue)) (h : message.toList.head? = some 'u') :
    (u.entry level message fields).moved? = none ∧ (u.entry level message fields).entered? = none := by
  refine ⟨moved?_eq_none ?_, entered?_eq_none ?_⟩ <;> rw [entry, h] <;> decide

theorem traces_of_mem_moveNotes {next : Status} {entry : LogEntry} (h : entry ∈ u.moveNotes next) :
    entry.traces u.kind = true := by
  unfold moveNotes at h
  split at h
  · cases List.mem_singleton.mp h
    exact traces_ofMove ..
  · cases h

theorem muted_moveNotes (u : WorkUnit) (next : Status) : muted u.kind (u.moveNotes next) = [] := by
  unfold moveNotes
  split
  · exact muted_progress ⟨u.kind, true, true⟩ _ _
  · rfl

/-- An account in which no time is told. -/
theorem valid_of_told {way : Way} {outcome : Status} {head : List LogEntry} {report : Report}
    {line : LogEntry} (houtcome : outcome ∈ way.outcomes) (htold : Told u outcome report line)
    (hhead : ∀ entry ∈ head, entry.traces u.kind = true) :
    Account.Valid ⟨outcome, head, fun _ => report, fun _ => line⟩ u way where
  outcome := houtcome
  told _ := htold
  report_untimed _ _ := rfl
  line_untimed _ _ := rfl
  timed _ _ _ := ⟨rfl, rfl⟩
  traced entry hentry := .inl (hhead entry hentry)

/-- A unit that is rejected. Nothing is traced. -/
theorem exists_account_reject (page : PageConfig) (u : WorkUnit) (error : UnitError) (armed : Bool)
    (session : Session) :
    ∃ account : Account,
      account.Valid u (.reject error) ∧ account.Given page u (.reject error) armed session := by
  have htold : Told u .failed ((u.advance .failed).2.report none (some error) 0)
      (u.failureEntry error) :=
    { status := u.status_advance rfl
      output := iff_of_false Bool.false_ne_true nofun
      error := iff_of_true rfl rfl
      level := rfl
      tagged := u.tagged_entry ..
      moved := (u.silent_entry _ _ rfl).1
      entered := (u.silent_entry _ _ rfl).2 }
  exact ⟨_, valid_of_told (List.mem_singleton_self _) htold (List.forall_mem_nil _), session, rfl,
    fun _ => rfl⟩

theorem exists_account_cancel (page : PageConfig) (u : WorkUnit) (armed : Bool) (session : Session) :
    ∃ account : Account, account.Valid u .cancel ∧ account.Given page u .cancel armed session := by
  have htold : Told u .interrupted ((u.advance .interrupted).2.report none none 0)
      (u.entry .warning "unit interrupted before starting" []) :=
    { status := u.status_advance rfl
      output := iff_of_false Bool.false_ne_true nofun
      error := iff_of_false Bool.false_ne_true nofun
      level := rfl
      tagged := u.tagged_entry ..
      moved := (u.silent_entry _ _ rfl).1
      entered := (u.silent_entry _ _ rfl).2 }
  have hhead : ∀ entry ∈ u.moveNotes .interrupted, entry.traces u.kind = true :=
    fun _ => traces_of_mem_moveNotes
  refine ⟨_, valid_of_told (List.mem_singleton_self _) htold hhead, session, ?_, fun clock => ?_⟩
  · unfold close cancelBeforeStart
    simp only [transition_loud rfl, Session.note, Session.noteAll, List.append_assoc]
  · unfold close cancelBeforeStart
    simp only [transition_quiet, muted_moveNotes]
    rfl

/-- Whatever a unit is when it is to run, it comes to the end that it would have come to. -/
theorem status_advance_running (u : WorkUnit) {next : Status} (h : next.isTerminal = true) :
    ((u.advance .running).2.advance next).2.status =
      if u.status.isTerminal then u.status else next := by
  rw [status_advance _ h]
  unfold advance
  cases hstatus : u.status <;> simp_all [Status.canAdvanceTo, Status.isTerminal]

theorem told_closingEntry (u : WorkUnit) (ending : Ending) (time : Nat) :
    Told u ending.outcome
      (((u.advance .running).2.advance ending.outcome).2.report ending.file ending.failure time)
      ((u.advance .running).2.closingEntry time ending) where
  status := u.status_advance_running (by cases ending <;> rfl)
  output := by cases ending <;> simp [WorkUnit.report, Ending.file, Ending.outcome]
  error := by cases ending <;> simp [WorkUnit.report, Ending.failure, Ending.outcome]
  level := by cases ending <;> rfl
  tagged := by
    have htagged := (u.advance .running).2.tagged_entry
    rw [kind_advance] at htagged
    cases ending <;> exact htagged ..
  moved := by cases ending <;> exact (silent_entry _ _ _ rfl).1
  entered := by cases ending <;> exact (silent_entry _ _ _ rfl).2

theorem untimed_closingEntry (u : WorkUnit) (ending : Ending) (time time' : Nat) :
    (u.closingEntry time ending).untimed = (u.closingEntry time' ending).untimed := by
  cases ending <;> rfl

/-- A unit is executed by the backend that lays documents out. -/
theorem execute_document (page : PageConfig) (u : WorkUnit) {context : Context}
    {session after : Session} {ending : Ending}
    (h : renderDocument page u.job context ((u.transition .running context session).2.trace context
      "invoking document backend") = (ending, after)) :
    u.execute (.document page) context session =
      (u.transition .running context session).1.conclude context ending after := by
  rw [← u.job_transition .running context session] at h
  exact congrArg (fun result : Ending × Session =>
    (u.transition .running context session).1.conclude context result.1 result.2) h

/-- What is traced of a compilation: that it begins to run, what the backend traces, and how
it ends. -/
def executionNotes (u : WorkUnit) (entries : List LogEntry) (outcome : Status) : List LogEntry :=
  u.moveNotes .running ++
    (Session.traceNotes ⟨u.kind, true, true⟩ "invoking document backend" ++ entries) ++
    (u.advance .running).2.moveNotes outcome

theorem muted_executionNotes (u : WorkUnit) (entries : List LogEntry) (outcome : Status) :
    muted u.kind (u.executionNotes entries outcome) = muted u.kind entries := by
  have hending := (u.advance .running).2.muted_moveNotes outcome
  rw [kind_advance] at hending
  have hinvoking : muted u.kind
      (Session.traceNotes ⟨u.kind, true, true⟩ "invoking document backend") = [] :=
    muted_progress ⟨u.kind, true, true⟩ _ _
  rw [executionNotes, muted_append, muted_append, muted_append, muted_moveNotes, hinvoking, hending,
    List.append_nil]
  rfl

theorem traces_of_mem_executionNotes {entries : List LogEntry}
    (htrail : Trail u.kind Stage.all entries) {outcome : Status} {entry : LogEntry}
    (h : entry ∈ u.executionNotes entries outcome) :
    entry.traces u.kind = true ∨ entry.tagged u.kind = false ∧ entry.entered? = none := by
  rcases List.mem_append.mp h with h | h
  · rcases List.mem_append.mp h with h | h
    · exact .inl (traces_of_mem_moveNotes h)
    · rcases List.mem_append.mp h with h | h
      · cases List.mem_singleton.mp h
        exact .inl (traces_progress ..)
      · exact htrail.traced entry h
  · have htraces := traces_of_mem_moveNotes h
    rw [kind_advance] at htraces
    exact .inl htraces

/-- The account of a unit that is executed. -/
def executionAccount (u : WorkUnit) (entries : List LogEntry) (ending : Ending) : Account where
  outcome := ending.outcome
  head := u.executionNotes entries ending.outcome
  report := ((u.advance .running).2.advance ending.outcome).2.report ending.file ending.failure
  line := fun time => (u.advance .running).2.closingEntry time ending

theorem valid_executionAccount {entries : List LogEntry} (htrail : Trail u.kind Stage.all entries)
    (ending : Ending) : (u.executionAccount entries ending).Valid u .execute where
  outcome := by cases ending <;> simp [executionAccount, Ending.outcome, Way.outcomes]
  told := u.told_closingEntry ending
  report_untimed := fun _ _ => rfl
  line_untimed := untimed_closingEntry _ ending
  timed := by
    intro time time' htime
    have heq : time = time' := htime
    rw [heq]
    exact ⟨rfl, rfl⟩
  traced := fun _ hentry => traces_of_mem_executionNotes htrail hentry

theorem exists_account_execute (page : PageConfig) (u : WorkUnit) (armed : Bool) (session : Session) :
    ∃ ending entries, Trail u.kind Stage.all entries ∧
      (u.executionAccount entries ending).Given page u .execute armed session := by
  -- What is logged before the backend is called belongs to the trace, so with debugging off the
  -- backend is called in the session as it is.
  let begun := session.noteAll
    (u.moveNotes .running ++ Session.traceNotes ⟨u.kind, true, true⟩ "invoking document backend")
  obtain ⟨ending, after, entries, hending, htrail, hloud, hquiet⟩ :=
    (shadows_documentSteps u.kind armed page u.job).run armed begun
  refine ⟨ending, entries, htrail, after, ?_, fun clock => ?_⟩
  · have hrender : renderDocument page u.job ⟨u.kind, true, armed⟩
        ((u.transition .running ⟨u.kind, true, armed⟩ session).2.trace ⟨u.kind, true, armed⟩
          "invoking document backend") =
        (ending, { after with log := begun.log ++ entries, elapsed := session.elapsed }) := by
      rw [transition_loud rfl, Session.trace_eq, Session.noteAll_noteAll]
      exact (run_documentSteps ..).symm.trans hloud
    have hkind := u.kind_advance .running
    refine (execute_document page u hrender).trans ?_
    simp only [conclude_eq _ _ hending, transition_loud rfl, transition_loud hkind, hkind, begun,
      executionAccount, executionNotes, Session.note, Session.noteAll, List.append_assoc]
  · have hrender : renderDocument page u.job ⟨u.kind, false, armed⟩
        ((u.transition .running ⟨u.kind, false, armed⟩ { session with elapsed := clock }).2.trace
          ⟨u.kind, false, armed⟩ "invoking document backend") =
        (ending,
          { after with log := session.log ++ muted u.kind entries, elapsed := clock }) := by
      rw [transition_quiet]
      exact (run_documentSteps ..).symm.trans (hquiet session.log clock)
    have hkind := u.kind_advance .running
    refine (execute_document page u hrender).trans ?_
    simp only [conclude_eq _ _ hending, transition_quiet, hkind, executionAccount,
      muted_executionNotes, Session.note, List.append_assoc]

/-- A unit that was waiting runs, and comes to an end. -/
theorem executionNotes_of_pending (u : WorkUnit) (hstatus : u.status = .pending) (entries : List LogEntry)
    {outcome : Status} (hterminal : outcome.isTerminal = true) :
    u.executionNotes entries outcome =
      LogEntry.ofMove u.kind .pending .running ::
        (Session.traceNotes ⟨u.kind, true, true⟩ "invoking document backend" ++ entries) ++
        [LogEntry.ofMove u.kind .running outcome] := by
  have hbegins : u.moveNotes .running = [LogEntry.ofMove u.kind .pending .running] := by
    unfold moveNotes
    rw [hstatus]
    rfl
  have hends : (u.advance .running).2.moveNotes outcome =
      [LogEntry.ofMove u.kind .running outcome] := by
    unfold moveNotes advance
    rw [hstatus]
    exact if_pos hterminal
  rw [executionNotes, hbegins, hends]
  rfl

/-- The log of a unit between its first entry and its last two. -/
theorem chronicle_of_trail {kind : Kind} {entries : List LogEntry}
    (htrail : Trail kind Stage.all entries) {status : Status} {line : LogEntry}
    (hlevel : status.closingLevel = some line.level) (htagged : line.tagged kind = true)
    (hmoved : line.moved? = none) (hentered : line.entered? = none) :
    Chronicle kind status (LogEntry.ofMove kind .pending .running :: entries ++
      [LogEntry.ofMove kind .running status, line]) where
  moves := by
    have hnone : entries.filterMap LogEntry.moved? = [] := htrail.moved
    rw [List.cons_append, moves, List.filterMap_cons_some (moved?_ofMove ..), List.filterMap_append,
      hnone, List.filterMap_cons_some (moved?_ofMove ..), List.filterMap_cons_none hmoved]
    rfl
  first := ⟨_, _, rfl, moved?_ofMove ..⟩
  stages := by
    rw [List.cons_append, enteredStages, List.filterMap_cons_none (entered?_ofMove ..),
      List.filterMap_append, List.filterMap_cons_none (entered?_ofMove ..),
      List.filterMap_cons_none hentered, List.filterMap_nil, List.append_nil]
    exact htrail.entered
  last := ⟨_, _, line, rfl, moved?_ofMove .., htagged, hlevel⟩
  traced entry hentry htells := by
    rcases List.mem_append.mp hentry with hentry | hentry
    · rcases List.mem_cons.mp hentry with rfl | hentry
      · exact traces_ofMove ..
      · -- What tells no stage and no change of status need not belong to the trace.
        rcases htrail.traced entry hentry with htraces | ⟨-, hnone⟩
        · exact htraces
        · have hmoved := List.filterMap_eq_nil_iff.mp htrail.moved entry hentry
          exact (htells.elim (absurd hmoved) (absurd hnone))
    · rcases List.mem_cons.mp hentry with rfl | hentry
      · exact traces_ofMove ..
      · cases List.mem_singleton.mp hentry
        exact htells.elim (absurd hmoved) (absurd hentered)

/-- A unit that was waiting tells of its execution from beginning to end. -/
theorem chronicle_executionNotes (hstatus : u.status = .pending) {entries : List LogEntry}
    (htrail : Trail u.kind Stage.all entries) {outcome : Status} {report : Report} {line : LogEntry}
    (htold : Told u outcome report line) :
    Chronicle u.kind report.status (u.executionNotes entries outcome ++ [line]) := by
  have houtcome : report.status = outcome := by
    rw [htold.status, hstatus]
    rfl
  have hterminal : outcome.isTerminal = true := by
    have hlevel := htold.level
    cases outcome <;> first | rfl | cases hlevel
  have hnotes : Trail u.kind Stage.all
      (Session.traceNotes ⟨u.kind, true, true⟩ "invoking document backend" ++ entries) :=
    (trail_progress ⟨u.kind, true, true⟩ (by decide) (by decide)).append htrail
  rw [u.executionNotes_of_pending hstatus entries hterminal, List.append_assoc, houtcome]
  exact chronicle_of_trail hnotes htold.level htold.tagged htold.moved htold.entered

/-- What is logged of a unit, and reported of it, with debugging on and with debugging off. -/
structure Faithful (u : WorkUnit) (way : Way) (report quietReport : Report)
    (entries quietEntries : List LogEntry) : Prop where
  /-- The reports are the same, the time aside. -/
  reports : quietReport.untimed = report.untimed
  /-- So are the logs, without the trace of the unit. -/
  logs : quietEntries.map LogEntry.untimed = (muted u.kind entries).map LogEntry.untimed
  /-- They are the same altogether if the time is. -/
  timed : quietReport.elapsed = report.elapsed →
    quietReport = report ∧ quietEntries = muted u.kind entries
  /-- With debugging off one entry carries the tag of the unit, the last one. -/
  closing : ∃ outcome ∈ way.outcomes, ∃ line,
    quietEntries.filter (LogEntry.tagged u.kind) = [line] ∧ quietEntries.getLast? = some line ∧
    Told u outcome quietReport line
  chronicle : way = .execute → u.status = .pending → Chronicle u.kind report.status entries

theorem Told.traces_eq_false {outcome : Status} {report : Report} {line : LogEntry}
    (h : Told u outcome report line) : line.traces u.kind = false := by
  have hlevel : line.level ≠ .debug := by
    intro hdebug
    have hclosing := h.level
    rw [hdebug] at hclosing
    cases outcome <;> cases hclosing
  rw [LogEntry.traces, beq_eq_false_iff_ne.mpr hlevel]
  rfl

/-- What a unit has logged before its last entry carries its tag only in the trace. -/
theorem Account.Valid.filter_tagged {account : Account} {way : Way} (h : account.Valid u way) :
    (muted u.kind account.head).filter (LogEntry.tagged u.kind) = [] := by
  -- An entry that is left does not belong to the trace, and the others carry no tag.
  refine List.filter_eq_nil_iff.mpr fun entry hentry => ?_
  obtain ⟨hmem, htraces⟩ := List.mem_filter.mp hentry
  rcases h.traced entry hmem with htraced | ⟨hnone, -⟩
  · rw [htraced] at htraces
    cases htraces
  · rw [hnone]
    exact Bool.false_ne_true

/-- Accounts are faithful. -/
theorem Account.Valid.faithful {account : Account} {way : Way} (h : account.Valid u way)
    (hexecute : way = .execute → ∃ entries, Trail u.kind Stage.all entries ∧
      account.head = u.executionNotes entries account.outcome) (time quietTime : Nat) :
    Faithful u way (account.report time) (account.report quietTime)
      (account.head ++ [account.line time])
      (muted u.kind account.head ++ [account.line quietTime]) := by
  -- The last entry is no part of the trace.
  have hmuted : muted u.kind (account.head ++ [account.line time]) =
      muted u.kind account.head ++ [account.line time] := by
    rw [muted_append]
    exact congrArg _ (List.filter_cons_of_pos (by rw [(h.told time).traces_eq_false]; rfl))
  exact
    { reports := h.report_untimed quietTime time
      logs := by
        rw [hmuted, List.map_append, List.map_append, List.map_singleton, List.map_singleton,
          h.line_untimed quietTime time]
      timed := by
        intro htime
        obtain ⟨hreport, hline⟩ := h.timed quietTime time htime
        rw [hmuted, hline]
        exact ⟨hreport, rfl⟩
      closing := by
        refine ⟨account.outcome, h.outcome, account.line quietTime, ?_, List.getLast?_concat,
          h.told quietTime⟩
        rw [List.filter_append, h.filter_tagged]
        exact List.filter_cons_of_pos (h.told quietTime).tagged
      chronicle := fun hway hstatus =>
        have ⟨_, htrail, hhead⟩ := hexecute hway
        hhead ▸ chronicle_executionNotes hstatus htrail (h.told time) }

theorem exists_account (page : PageConfig) (u : WorkUnit) (way : Way) (armed : Bool)
    (session : Session) :
    ∃ account : Account, account.Valid u way ∧ account.Given page u way armed session ∧
      (way = .execute → ∃ entries, Trail u.kind Stage.all entries ∧
        account.head = u.executionNotes entries account.outcome) := by
  cases way with
  | reject error =>
    obtain ⟨account, hvalid, hgiven⟩ := exists_account_reject page u error armed session
    exact ⟨account, hvalid, hgiven, nofun⟩
  | cancel =>
    obtain ⟨account, hvalid, hgiven⟩ := exists_account_cancel page u armed session
    exact ⟨account, hvalid, hgiven, nofun⟩
  | execute =>
    obtain ⟨ending, entries, htrail, hgiven⟩ := exists_account_execute page u armed session
    exact ⟨_, valid_executionAccount htrail ending, hgiven, fun _ => ⟨entries, htrail, rfl⟩⟩

/-- Debugging only adds the trace of the unit, and the trace is true. -/
theorem faithful_close (page : PageConfig) (u : WorkUnit) (way : Way) (armed : Bool)
    (session : Session) (clock : Kind → Nat) :
    ∃ (report quietReport : Report) (after : Session) (entries quietEntries : List LogEntry),
      u.close page way true armed session =
        (.ok report, { after with log := session.log ++ entries, elapsed := session.elapsed }) ∧
      u.close page way false armed { session with elapsed := clock } =
        (.ok quietReport, { after with log := session.log ++ quietEntries, elapsed := clock }) ∧
      Faithful u way report quietReport entries quietEntries := by
  obtain ⟨account, hvalid, ⟨after, hloud, hquiet⟩, hexecute⟩ :=
    exists_account page u way armed session
  exact ⟨_, _, after, _, _, hloud, hquiet clock, hvalid.faithful hexecute _ _⟩

/-- The last entry need not be at the level that goes with the reported status. A unit that has
succeeded stays so when it is cancelled, and the entry is a warning. -/
theorem not_forall_level :
    ¬∀ (page : PageConfig) (u : WorkUnit) (way : Way) (armed : Bool) (session after : Session)
      (report : Report) (line : LogEntry),
      u.close page way false armed session = (.ok report, after) →
      after.log = session.log ++ [line] → line.tagged u.kind = true →
      report.status.closingLevel = some line.level := by
  intro h
  let u : WorkUnit :=
    { WorkUnit.new .cv ⟨[0x73]⟩ ⟨[0x6F]⟩ .standard with status := .succeeded }
  have hlevel := h .standard u .cancel false (.start ⟨[], [], [], fun _ => none⟩) _ _ _ rfl rfl rfl
  cases hlevel

end WorkUnit

end Vitae
