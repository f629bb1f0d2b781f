import Mathlib.Data.List.Infix
import Vitae.Proofs.Compile.Process

/-!
# Compilations Without Their Trace

With debugging on, a compilation logs how it goes on: the stages that it enters, the changes
of status, and what it has done in between. All of these entries are at the lowest level and
carry the tag of the unit, and together they are its trace.

Here a compilation with debugging on is compared with the same one with debugging off, step by
step. Both are the same procedure, up to what they log between two questions (`Shadows`), so
they are asked the same, do the same to the files and come to the same end, and one of them
logs what the other one logs without the trace (`Shadows.run`). The relation also keeps the
stages that may still be entered, so the trace of a whole run tells them in order and none of
them twice.

## Main definitions

* `LogEntry.tagged`, `LogEntry.traces`, `muted`: The trace of a unit, and a log without it.
* `LogEntry.moved?`, `moves`: The changes of status that a log tells.
* `Trail`: A log of the work on a unit.
* `Shadows`: A procedure that does the same as another one and logs less.

## Theorems

* `Trail.append`, `Trail.enter`: Logs are put together.
* `Shadows.run`: Two runs that differ only in the trace.
* `shadows_documentSteps`: The five stages with debugging on and off.
-/

namespace Vitae

/-! ### What entries tell -/

/-- The message about a change of status. -/
def Status.moveText (before after : Status) : String :=
  "status " ++ before.name ++ " -> " ++ after.name

namespace LogEntry

/-- Whether an entry carries the tag of a unit. -/
def tagged (kind : Kind) (entry : LogEntry) : Bool :=
  entry.fields.lookup "unit" == some (.plain kind.code)

/-- Whether an entry belongs to the trace of a unit. -/
def traces (kind : Kind) (entry : LogEntry) : Bool :=
  entry.level == .debug && entry.tagged kind

/-- The change of status that an entry tells. -/
def moved? (entry : LogEntry) : Option (Status × Status) :=
  (Status.all.product Status.all).find? fun move => entry.message == move.1.moveText move.2

/-- The trace of a change of status. -/
def ofMove (kind : Kind) (before after : Status) : LogEntry :=
  Session.progress ⟨kind, true, true⟩ (before.moveText after) []

end LogEntry

/-- The changes of status that a log tells. -/
def moves (entries : List LogEntry) : List (Status × Status) :=
  entries.filterMap LogEntry.moved?

/-- A log without the trace of a unit. -/
def muted (kind : Kind) (entries : List LogEntry) : List LogEntry :=
  entries.filter fun entry => !entry.traces kind

section Entries

variable {kind : Kind}

theorem moves_append (xs ys : List LogEntry) : moves (xs ++ ys) = moves xs ++ moves ys :=
  List.filterMap_append

theorem muted_append (xs ys : List LogEntry) :
    muted kind (xs ++ ys) = muted kind xs ++ muted kind ys :=
  List.filter_append xs ys

/-- A message that begins with another letter is not about a change of status. -/
theorem moved?_eq_none {entry : LogEntry} (h : entry.message.toList.head? ≠ some 's') :
    entry.moved? = none := by
  refine List.find?_eq_none.mpr fun move _ hmove => h ?_
  rw [beq_iff_eq.mp hmove]
  simp [Status.moveText, String.toList_append]

/-- A message that begins with another letter is not about a stage. -/
theorem entered?_eq_none {entry : LogEntry} (h : entry.message.toList.head? ≠ some 'e') :
    entry.entered? = none := by
  refine if_neg fun hmessage => h ?_
  rw [hmessage]
  rfl

theorem tagged_progress (context : Context) (message : String) (fields : List (String × LogValue)) :
    (Session.progress context message fields).tagged context.kind = true := by
  simp [Session.progress, LogEntry.tagged]

theorem traces_progress (context : Context) (message : String) (fields : List (String × LogValue)) :
    (Session.progress context message fields).traces context.kind = true := by
  rw [LogEntry.traces, tagged_progress]
  rfl

/-- A note on the progress of a unit belongs to its trace. -/
theorem muted_progress (context : Context) (message : String) (fields : List (String × LogValue)) :
    muted context.kind [Session.progress context message fields] = [] := by
  rw [muted, List.filter_cons, traces_progress]
  rfl

section Move

variable (kind : Kind) (before after : Status)

theorem moved?_ofMove : (LogEntry.ofMove kind before after).moved? = some (before, after) := by
  change (Status.all.product Status.all).find?
    (fun move => before.moveText after == move.1.moveText move.2) = some (before, after)
  cases before <;> cases after <;> rfl

theorem entered?_ofMove : (LogEntry.ofMove kind before after).entered? = none := by
  refine entered?_eq_none ?_
  simp [LogEntry.ofMove, Session.progress, Status.moveText, String.toList_append]

theorem traces_ofMove : (LogEntry.ofMove kind before after).traces kind = true :=
  traces_progress ⟨kind, true, true⟩ _ _

end Move

theorem tagged_fileUse (use : FileUse) : use.entry.tagged kind = false :=
  rfl

end Entries

/-! ### Two runs -/

/-- A log of the work on a unit: it tells some of the given stages, from the first one on, and
no change of status. What does not belong to the trace of the unit does not carry its tag and
tells no stage. -/
structure Trail (kind : Kind) (stages : List Stage) (entries : List LogEntry) : Prop where
  entered : enteredStages entries <+: stages
  moved : moves entries = []
  traced : ∀ entry ∈ entries,
    entry.traces kind = true ∨ entry.tagged kind = false ∧ entry.entered? = none

section Trails

variable {kind : Kind} {stages : List Stage} {entries : List LogEntry}

theorem trail_nil (stages : List Stage) : Trail kind stages [] :=
  ⟨List.nil_prefix, rfl, fun _ h => absurd h List.not_mem_nil⟩

/-- A log that tells no stage can come before another one. -/
theorem Trail.append {more : List LogEntry} (h : Trail kind [] entries)
    (hmore : Trail kind stages more) : Trail kind stages (entries ++ more) where
  entered := by
    rw [enteredStages_append, List.prefix_nil.mp h.entered]
    exact hmore.entered
  moved := by
    rw [moves_append, h.moved, hmore.moved]
    rfl
  traced entry hentry := (List.mem_append.mp hentry).elim (h.traced entry) (hmore.traced entry)

/-- So can the note about a stage. -/
theorem Trail.enter (context : Context) (stage : Stage) (h : Trail context.kind stages entries) :
    Trail context.kind (stage :: stages)
      ([Session.progress context "entering stage" [("stage", .plain stage.name)]] ++ entries) where
  entered := by
    have hentered : enteredStages
        [Session.progress context "entering stage" [("stage", .plain stage.name)]] = [stage] := by
      cases stage <;> rfl
    rw [enteredStages_append, hentered]
    exact (List.prefix_cons_inj stage).mpr h.entered
  moved := by
    have hmessage : "entering stage".toList.head? ≠ some 's' := by decide
    rw [moves_append, h.moved, List.append_nil]
    exact List.filterMap_cons_none (moved?_eq_none hmessage)
  traced entry hentry := by
    rcases List.mem_append.mp hentry with hentry | hentry
    · cases List.mem_singleton.mp hentry
      exact .inl (traces_progress ..)
    · exact h.traced entry hentry

/-- A note on the progress that begins with another letter than those on stages and statuses. -/
theorem trail_progress (context : Context) {message : String}
    (hstage : message.toList.head? ≠ some 'e') (hstatus : message.toList.head? ≠ some 's') :
    Trail context.kind [] [Session.progress context message []] where
  entered := by
    rw [enteredStages, List.filterMap_cons_none (entered?_eq_none hstage)]
    exact List.nil_prefix
  moved := List.filterMap_cons_none (moved?_eq_none hstatus)
  traced entry hentry := by
    cases List.mem_singleton.mp hentry
    exact .inl (traces_progress ..)

/-- The use of item files is logged for no unit in particular. -/
theorem trail_entries (shelf : Shelf) : Trail kind [] shelf.entries where
  entered := List.prefix_nil.mpr (enteredStages_entries shelf)
  moved := by
    refine List.filterMap_eq_nil_iff.mpr fun entry hentry => ?_
    obtain ⟨use, -, rfl⟩ := List.mem_map.mp hentry
    have hmessage : ∀ remembered : Bool,
        (if remembered then "item file cache hit" else "item file cache miss").toList.head? ≠
          some 's' := by decide
    exact moved?_eq_none (hmessage use.remembered)
  traced entry hentry := by
    have hnone := List.filterMap_eq_nil_iff.mp (enteredStages_entries shelf) entry hentry
    obtain ⟨use, -, rfl⟩ := List.mem_map.mp hentry
    exact .inr ⟨tagged_fileUse use, hnone⟩

theorem muted_entries (shelf : Shelf) : muted kind shelf.entries = shelf.entries := by
  refine List.filter_eq_self.mpr fun entry hentry => ?_
  obtain ⟨use, -, rfl⟩ := List.mem_map.mp hentry
  rw [LogEntry.traces, tagged_fileUse, Bool.and_false]
  rfl

end Trails

/-- A procedure that is asked the same as another one, does the same, and logs the same without
the trace of a unit. The stages are those that the other one may still enter. -/
inductive Shadows (kind : Kind) : List Stage → Process Ending → Process Ending → Prop
  | done {stages : List Stage} {ending : Ending} (h : ∀ words, ending ≠ .crashed words) :
    Shadows kind stages (.done ending) (.done ending)
  | ask {stages : List Stage} {next next' : Bool → Process Ending}
    (h : ∀ stop, Shadows kind stages (next stop) (next' stop)) :
    Shadows kind stages (.ask next) (.ask next')
  | act {stages : List Stage} {effect effect' : Store → Store × List LogEntry}
    {next next' : Store → Process Ending}
    (heffect : ∀ store, effect' store = ((effect store).1, muted kind (effect store).2))
    (htrail : ∀ store, Trail kind [] (effect store).2)
    (h : ∀ store, Shadows kind stages (next store) (next' store)) :
    Shadows kind stages (.act effect next) (.act effect' next')
  | enter {stages : List Stage} {stage : Stage} {context : Context} {process process' : Process Ending}
    (hkind : context.kind = kind) (h : Shadows kind stages process process') :
    Shadows kind (stage :: stages)
      (.note [Session.progress context "entering stage" [("stage", .plain stage.name)]] process)
      (.note [] process')

/-- What happens in a run, apart from what is logged and the time it takes. -/
theorem Shadows.run {kind : Kind} {stages : List Stage} {process process' : Process Ending}
    (h : Shadows kind stages process process') (armed : Bool) (session : Session) :
    ∃ (ending : Ending) (after : Session) (entries : List LogEntry),
      (∀ words, ending ≠ .crashed words) ∧ Trail kind stages entries ∧
      process.run ⟨kind, true, armed⟩ session =
        (ending, { after with log := session.log ++ entries, elapsed := session.elapsed }) ∧
      ∀ log elapsed, process'.run ⟨kind, false, armed⟩ { session with log := log, elapsed := elapsed } =
        (ending, { after with log := log ++ muted kind entries, elapsed := elapsed }) := by
  induction h generalizing session with
  | @done stages ending hending =>
    refine ⟨ending, session, [], hending, trail_nil stages, ?_, fun log elapsed => ?_⟩
    · rw [List.append_nil]
      rfl
    · rw [muted, List.filter_nil, List.append_nil]
      rfl
  | ask _ ih =>
    -- Both are given the same answer, and neither logs the question.
    obtain ⟨ending, after, entries, hending, htrail, hloud, hquiet⟩ :=
      ih (session.answer ⟨kind, true, armed⟩ 0) session.polled
    exact ⟨ending, after, entries, hending, htrail, hloud, hquiet⟩
  | @act stages effect effect' next next' heffect htrail _ ih =>
    obtain ⟨ending, after, entries, hending, hrest, hloud, hquiet⟩ :=
      ih session.store (Process.acted session effect)
    refine ⟨ending, after, (effect session.store).2 ++ entries, hending,
      (htrail session.store).append hrest, ?_, fun log elapsed => ?_⟩
    · rw [Process.run_act, hloud, ← List.append_assoc]
      rfl
    · rw [Process.run_act, muted_append, ← List.append_assoc, ← hquiet, Process.acted, heffect]
      rfl
  | @enter stages stage context process process' hkind _ ih =>
    subst hkind
    let entry := Session.progress context "entering stage" [("stage", .plain stage.name)]
    obtain ⟨ending, after, entries, hending, hrest, hloud, hquiet⟩ := ih (session.noteAll [entry])
    refine ⟨ending, after, [entry] ++ entries, hending, hrest.enter context stage, ?_,
      fun log elapsed => ?_⟩
    · rw [Process.run_note, hloud, ← List.append_assoc]
      rfl
    · rw [Process.run_note, Session.noteAll_nil, muted_append, muted_progress, List.nil_append,
        ← hquiet]
      rfl

/-! ### The five stages -/

section Document

variable {kind : Kind} {armed : Bool} {stages : List Stage} {process process' : Process Ending}

/-- Asking before a stage puts the stage in front of those that may be entered. -/
theorem shadows_checkpointSteps (stage : Stage) (h : Shadows kind stages process process') :
    Shadows kind (stage :: stages) (checkpointSteps ⟨kind, true, armed⟩ stage process)
      (checkpointSteps ⟨kind, false, armed⟩ stage process') := by
  refine .ask fun stop => ?_
  cases stop with
  | true => exact .done nofun
  | false => exact .enter rfl h

theorem shadows_trace {message : String} (hstage : message.toList.head? ≠ some 'e')
    (hstatus : message.toList.head? ≠ some 's') (h : Shadows kind stages process process') :
    Shadows kind stages (.note (Session.traceNotes ⟨kind, true, armed⟩ message) process)
      (.note (Session.traceNotes ⟨kind, false, armed⟩ message) process') := by
  refine .act (fun store => ?_) (fun _ => trail_progress ⟨kind, true, armed⟩ hstage hstatus)
    fun _ => h
  exact congrArg (Prod.mk store) (muted_progress ⟨kind, true, armed⟩ message []).symm

/-- An action that is not logged is the same with debugging on and off. -/
theorem shadows_silent {effect : Store → Store} {next next' : Store → Process Ending}
    (h : ∀ store, Shadows kind stages (next store) (next' store)) :
    Shadows kind stages (.act (fun store => (effect store, [])) next)
      (.act (fun store => (effect store, [])) next') :=
  .act (fun _ => rfl) (fun _ => trail_nil []) h

theorem shadows_publishSteps (job : Job) (contents : Bytes) (pages : Nat) :
    Shadows kind stages (publishSteps job ⟨kind, true, armed⟩ contents pages)
      (publishSteps job ⟨kind, false, armed⟩ contents pages) := by
  refine .ask fun stop => ?_
  cases stop with
  | true => exact shadows_silent fun _ => .done nofun
  | false =>
    refine shadows_silent fun store => ?_
    cases (store.commit job.output).1 with
    | error refusal => exact .done nofun
    | ok =>
      refine shadows_trace ?_ ?_ (.done nofun) <;> simp [String.toList_append]

theorem shadows_writeSteps (job : Job) (contents : Bytes) (pages : Nat) :
    Shadows kind stages (writeSteps job ⟨kind, true, armed⟩ contents pages)
      (writeSteps job ⟨kind, false, armed⟩ contents pages) := by
  refine shadows_silent fun store => ?_
  cases (store.makeFolders job.output.directory).1 with
  | error refusal => exact .done nofun
  | ok =>
    refine shadows_silent fun store => ?_
    cases (store.prepare job.output.directory contents).1 with
    | error refusal => exact .done nofun
    | ok => exact shadows_publishSteps job contents pages

theorem shadows_layoutSteps (page : PageConfig) (job : Job) (document : Document) :
    Shadows kind [.encode, .write] (layoutSteps page job ⟨kind, true, armed⟩ document)
      (layoutSteps page job ⟨kind, false, armed⟩ document) := by
  refine shadows_trace ?_ ?_
    (shadows_checkpointSteps .encode (shadows_checkpointSteps .write (shadows_writeSteps job _ _))) <;>
    simp [String.toList_append]

theorem shadows_analyzeSteps (page : PageConfig) (job : Job) (source : Source) :
    Shadows kind [.layout, .encode, .write] (analyzeSteps page job ⟨kind, true, armed⟩ source)
      (analyzeSteps page job ⟨kind, false, armed⟩ source) := by
  refine .act (fun store => ?_) (fun _ => trail_entries _) fun store => ?_
  · rw [muted_entries]
  · cases analyze job.kind (store.loadItems (itemFolder job.source)) source with
    | error problems => exact .done nofun
    | ok document =>
      refine shadows_trace ?_ ?_
        (shadows_checkpointSteps .layout (shadows_layoutSteps page job document)) <;>
        simp [String.toList_append]

theorem shadows_loadSteps (page : PageConfig) (job : Job) :
    Shadows kind [.analyze, .layout, .encode, .write] (loadSteps page job ⟨kind, true, armed⟩)
      (loadSteps page job ⟨kind, false, armed⟩) := by
  refine shadows_silent fun store => ?_
  cases readSource store job with
  | error error => exact .done nofun
  | ok source => exact shadows_checkpointSteps .analyze (shadows_analyzeSteps page job source)

/-- The five stages are the same with debugging on and off, and each may be entered once. -/
theorem shadows_documentSteps (kind : Kind) (armed : Bool) (page : PageConfig) (job : Job) :
    Shadows kind Stage.all (documentSteps page job ⟨kind, true, armed⟩)
      (documentSteps page job ⟨kind, false, armed⟩) :=
  shadows_checkpointSteps .load (shadows_loadSteps page job)

end Document

end Vitae
