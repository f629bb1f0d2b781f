import Vitae.Proofs.Compile.Reports

/-!
# Units Step by Step

Workers run side by side, so what a unit does has to be told step by step: at some points
it asks whether to stop, at others it acts on the files and logs what it does, and what
it does next depends on what it was told and what it found. Between any two steps another
unit may have its turn.

A procedure tells this for every job. Run without interruption it is a backend, and what
the backend for documents does is a procedure (`backend_document`). So is the whole work
of a worker, which asks once more before it calls the backend (`run_worker`).

## Main definitions

* `Process`: What is still to be done, step by step.
* `Process.run`: All of it, without anyone in between.
* `Procedure`: What is to be done for every job.
* `Procedure.document`: The five stages for a document, step by step.
* `Procedure.worker`: The work on a unit, with its report.

## Theorems

* `Process.run_bind`: One thing after the other.
* `run_documentSteps`: The five stages, run at once.
* `Procedure.backend_document`: The backend for documents.
* `Procedure.run_worker`: A worker left to itself.
-/

namespace Vitae

/-- What is still to be done, step by step. -/
inductive Process (α : Type) where
  /-- Nothing. -/
  | done (result : α)
  /-- To ask whether to stop, and to go on as one is told. -/
  | ask (next : Bool → Process α)
  /-- To act on the files and log it, and to go on as the files were before. -/
  | act (effect : Store → Store × List LogEntry) (next : Store → Process α)

namespace Process

variable {α β : Type}

/-- To log entries, and to go on. -/
def note (entries : List LogEntry) (next : Process α) : Process α :=
  .act (fun store => (store, entries)) fun _ => next

def bind (after : α → Process β) : Process α → Process β
  | .done result => after result
  | .ask next => .ask fun stop => (next stop).bind after
  | .act effect next => .act effect fun store => (next store).bind after

/-- The session after an action. -/
def acted (session : Session) (effect : Store → Store × List LogEntry) : Session :=
  { session with
    store := (effect session.store).1
    log := session.log ++ (effect session.store).2 }

/-- Everything that is to be done, without anyone in between. -/
def run (context : Context) : Process α → Session → α × Session
  | .done result, session => (result, session)
  | .ask next, session => (next (session.answer context 0)).run context session.polled
  | .act effect next, session => (next session.store).run context (acted session effect)

theorem run_ask (context : Context) (next : Bool → Process α) (session : Session) :
    (ask next).run context session = (next (session.answer context 0)).run context session.polled :=
  rfl

theorem run_act (context : Context) (effect : Store → Store × List LogEntry)
    (next : Store → Process α) (session : Session) :
    (act effect next).run context session = (next session.store).run context (acted session effect) :=
  rfl

/-- An action of which nothing is logged. -/
theorem run_act_silent (context : Context) (effect : Store → Store) (next : Store → Process α)
    (session : Session) :
    (act (fun store => (effect store, [])) next).run context session =
      (next session.store).run context { session with store := effect session.store } := by
  rw [run_act, acted, List.append_nil]

theorem run_note (context : Context) (entries : List LogEntry) (next : Process α)
    (session : Session) :
    (note entries next).run context session = next.run context (session.noteAll entries) :=
  rfl

theorem run_bind (context : Context) (after : α → Process β) (process : Process α)
    (session : Session) :
    (process.bind after).run context session =
      (after (process.run context session).1).run context (process.run context session).2 := by
  induction process generalizing session with
  | done result => rfl
  | ask next ih => exact ih _ _
  | act effect next ih => exact ih _ _

/-- How long units take does not change. -/
theorem elapsed_run (context : Context) (process : Process α) (session : Session) :
    (process.run context session).2.elapsed = session.elapsed := by
  induction process generalizing session with
  | done result => rfl
  | ask next ih => exact ih _ _
  | act effect next ih => exact ih _ _

end Process

/-- What is to be done for every job. -/
structure Procedure where
  name : String
  steps : Job → Context → Process Ending

/-- A procedure that is run without interruption. -/
def Procedure.backend (procedure : Procedure) : Backend where
  name := procedure.name
  render job context session := (procedure.steps job context).run context session

/-! ### Documents -/

section Document

/-- To ask whether to stop before a stage, and to go on with it otherwise. -/
def checkpointSteps (context : Context) (stage : Stage) (next : Process Ending) : Process Ending :=
  .ask fun stop =>
    if stop then .done (.interrupted stage)
    else .note (Session.enterNotes context stage) next

/-- To publish the draft of a file, unless one is asked to stop. -/
def publishSteps (job : Job) (context : Context) (contents : Bytes) (pages : Nat) : Process Ending :=
  .ask fun stop =>
    if stop then
      .act (fun store => (store.discard, [])) fun _ => .done (.interrupted .write)
    else
      .act (fun store => ((store.commit job.output).2, [])) fun store =>
        match (store.commit job.output).1 with
        | .error refusal => .done (.failed (.refused refusal))
        | .ok () =>
          .note
            (Session.traceNotes context
              ("wrote " ++ toString contents.length ++ " byte(s) to " ++ job.output.display))
            (.done (.completed job.output pages))

/-- To prepare a draft beside the output and to publish it. -/
def writeSteps (job : Job) (context : Context) (contents : Bytes) (pages : Nat) : Process Ending :=
  .act (fun store => ((store.makeFolders job.output.directory).2, [])) fun store =>
    match (store.makeFolders job.output.directory).1 with
    | .error refusal => .done (.failed (.refused refusal))
    | .ok () =>
      .act (fun store => ((store.prepare job.output.directory contents).2, [])) fun store =>
        match (store.prepare job.output.directory contents).1 with
        | .error refusal => .done (.failed (.refused refusal))
        | .ok () => publishSteps job context contents pages

/-- To lay out, encode and write a document. -/
def layoutSteps (page : PageConfig) (job : Job) (context : Context) (document : Document) :
    Process Ending :=
  let pages := compose document job.kind job.options page
  .note (Session.traceNotes context ("laid out " ++ toString pages.length ++ " page(s)"))
    (checkpointSteps context .encode
      (checkpointSteps context .write
        (writeSteps job context (Pdf.encode pages (documentTitle document job) page) pages.length)))

/-- To analyze a source, and to go on with the document it is. -/
def analyzeSteps (page : PageConfig) (job : Job) (context : Context) (source : Source) :
    Process Ending :=
  .act
    (fun store =>
      (store, (Analysis.run job.kind (store.loadItems (itemFolder job.source)) source).shelf.entries))
    fun store =>
      match analyze job.kind (store.loadItems (itemFolder job.source)) source with
      | .error problems => .done (.failed (.invalid (problems.map Problem.message)))
      | .ok document =>
        .note
          (Session.traceNotes context
            ("analyzed " ++ toString document.sections.length ++ " section(s)"))
          (checkpointSteps context .layout (layoutSteps page job context document))

/-- To read a source, and to go on with it. -/
def loadSteps (page : PageConfig) (job : Job) (context : Context) : Process Ending :=
  .act (fun store => (store, [])) fun store =>
    match readSource store job with
    | .error error => .done (.failed error)
    | .ok source => checkpointSteps context .analyze (analyzeSteps page job context source)

/-- The five stages, step by step. -/
def documentSteps (page : PageConfig) (job : Job) (context : Context) : Process Ending :=
  checkpointSteps context .load (loadSteps page job context)

/-- What the backend for documents does. -/
def Procedure.document (page : PageConfig) : Procedure where
  name := "document"
  steps := documentSteps page

variable {page : PageConfig} {job : Job} {context : Context}

theorem run_checkpointSteps {stage : Stage} {steps : Process Ending}
    {next : Session → Ending × Session} (h : ∀ session, steps.run context session = next session)
    (session : Session) :
    (checkpointSteps context stage steps).run context session =
      checkpoint context stage next session := by
  unfold checkpointSteps checkpoint
  rw [Process.run_ask, Session.poll_eq]
  -- Told to stop, both end here; otherwise the note is what entering the stage logs.
  cases session.answer context 0 with
  | true => rfl
  | false => exact (h _).trans (congrArg next (Session.enter_eq _ _ _).symm)

theorem run_publishSteps (contents : Bytes) (pages : Nat) (session : Session) :
    (publishSteps job context contents pages).run context session =
      publishDraft job context contents pages session := by
  unfold publishSteps publishDraft
  rw [Process.run_ask, Session.poll_eq]
  cases session.answer context 0 with
  | true => exact Process.run_act_silent ..
  | false =>
    simp only [Bool.false_eq_true, if_false, Process.run_act_silent]
    -- Asking has left the files alone.
    have hcommit : session.polled.store.commit job.output = session.store.commit job.output := rfl
    rw [hcommit]
    rcases hresult : session.store.commit job.output with ⟨refusal | _, store⟩
    · rfl
    · simp only [Process.run_note, ← Session.trace_eq]
      rfl

theorem run_writeSteps (contents : Bytes) (pages : Nat) (session : Session) :
    (writeSteps job context contents pages).run context session =
      writeStage job context contents pages session := by
  unfold writeSteps writeStage
  rw [Process.run_act_silent]
  simp only
  rcases session.store.makeFolders job.output.directory with ⟨refusal | _, store⟩
  · rfl
  · simp only [Process.run_act_silent]
    rcases store.prepare job.output.directory contents with ⟨refusal | _, drafted⟩
    · rfl
    · exact run_publishSteps contents pages _

theorem run_layoutSteps (document : Document) (session : Session) :
    (layoutSteps page job context document).run context session =
      layoutStage page job context document session := by
  unfold layoutSteps layoutStage
  simp only [Process.run_note, ← Session.trace_eq]
  exact run_checkpointSteps (run_checkpointSteps (run_writeSteps _ _)) _

theorem run_analyzeSteps (source : Source) (session : Session) :
    (analyzeSteps page job context source).run context session =
      analyzeStage page job context source session := by
  unfold analyzeSteps analyzeStage
  rw [Process.run_act]
  simp only
  cases analyze job.kind (session.store.loadItems (itemFolder job.source)) source with
  | error problems => rfl
  | ok document =>
    simp only [Process.run_note, ← Session.trace_eq]
    exact run_checkpointSteps (run_layoutSteps document) _

theorem run_loadSteps (session : Session) :
    (loadSteps page job context).run context session = loadStage page job context session := by
  unfold loadSteps loadStage
  rw [Process.run_act_silent]
  cases readSource session.store job with
  | error error => rfl
  | ok source => exact run_checkpointSteps (run_analyzeSteps source) session

/-- The five stages, run at once. -/
theorem run_documentSteps (page : PageConfig) (job : Job) (context : Context) (session : Session) :
    (documentSteps page job context).run context session =
      renderDocument page job context session :=
  run_checkpointSteps run_loadSteps session

theorem Procedure.backend_document (page : PageConfig) :
    (Procedure.document page).backend = Backend.document page :=
  congrArg (Backend.mk "document")
    (funext fun job => funext fun context => funext fun session =>
      run_documentSteps page job context session)

end Document

/-! ### Workers -/

namespace Procedure

/-- A session in which nothing has been logged yet. -/
def blank (elapsed : Kind → Nat) : Session :=
  { Session.start ⟨[], [], [], fun _ => none⟩ with elapsed := elapsed }

/-- To log what a session has logged since it was blank, and to be done. -/
def told (result : Report × Session) : Process Report :=
  .note result.2.log (.done result.1)

/-- The work on a unit: to ask whether to stop, to call the backend, and to report. -/
def worker (procedure : Procedure) (elapsed : Kind → Nat) (pending : Pending) : Process Report :=
  let u := pending.unit
  let context := Batch.contextOf pending
  .ask fun stop =>
    if stop then told (u.cancelBeforeStart context (blank elapsed))
    else
      let (running, session) := u.transition .running context (blank elapsed)
      .note (session.trace context ("invoking " ++ procedure.name ++ " backend")).log
        ((procedure.steps u.job context).bind fun ending =>
          told (Batch.reportOf u (running.conclude context ending (blank elapsed))))

/-- What only logs does so in any session as in a blank one. -/
def OnlyLogs {α : Type} (elapsed : Kind → Nat) (f : Session → α × Session) : Prop :=
  ∀ session, session.elapsed = elapsed →
    f session = ((f (blank elapsed)).1, session.noteAll (f (blank elapsed)).2.log)

variable {elapsed : Kind → Nat}

theorem onlyLogs_transition (u : WorkUnit) (context : Context) (next : Status) :
    OnlyLogs elapsed (u.transition next context) := by
  intro session _
  unfold WorkUnit.transition
  generalize u.advance next = advanced
  obtain ⟨advanced, after⟩ := advanced
  cases advanced with
  | true =>
    simp only [Session.trace_eq]
    rfl
  | false =>
    -- A state that cannot be entered is not noted.
    exact congrArg (Prod.mk after) (Session.noteAll_nil session).symm

/-- What only logs can be told of instead. -/
theorem run_told {f : Session → Report × Session} (h : OnlyLogs elapsed f) (context : Context)
    {session : Session} (hsession : session.elapsed = elapsed) :
    (told (f (blank elapsed))).run context session = f session :=
  (h session hsession).symm

/-- To log one more entry. -/
theorem onlyLogs_note {α β : Type} {f : Session → α × Session} (h : OnlyLogs elapsed f) (g : α → β)
    (entry : α → LogEntry) :
    OnlyLogs elapsed fun session => (g (f session).1, (f session).2.note (entry (f session).1)) := by
  intro session hsession
  simp only [h session hsession]
  exact congrArg (Prod.mk _) (Session.noteAll_noteAll _ _ _)

theorem onlyLogs_cancelBeforeStart (u : WorkUnit) (context : Context) :
    OnlyLogs elapsed (u.cancelBeforeStart context) :=
  onlyLogs_note (onlyLogs_transition u context .interrupted) (fun after => after.report none none 0)
    fun _ => u.entry .warning "unit interrupted before starting" []

theorem onlyLogs_conclude (u v : WorkUnit) (context : Context) (ending : Ending) :
    OnlyLogs elapsed fun session => Batch.reportOf v (u.conclude context ending session) := by
  rintro session rfl
  cases ending with
  | completed output pages =>
    exact onlyLogs_note (onlyLogs_transition u context .succeeded)
      (fun after => after.report (some output) none (session.elapsed u.kind))
      (fun _ => u.entry .info "unit succeeded"
        [("output", .plain output.display), ("pages", .number pages),
          ("elapsed_ms", .number (session.elapsed u.kind / 1000))]) session rfl
  | interrupted stage =>
    exact onlyLogs_note (onlyLogs_transition u context .interrupted)
      (fun after => after.report none none (session.elapsed u.kind))
      (fun _ => u.entry .warning "unit interrupted" [("stage", .plain stage.name)]) session rfl
  | failed error =>
    exact onlyLogs_note (onlyLogs_transition u context .failed)
      (fun after => after.report none (some (.render error)) (session.elapsed u.kind))
      (fun _ => u.failureEntry (.render error)) session rfl
  | crashed words => rfl

/-- A worker left to itself does what a worker of a batch does. -/
theorem run_worker (procedure : Procedure) (pending : Pending) (session : Session) :
    (procedure.worker session.elapsed pending).run (Batch.contextOf pending) session =
      Batch.work procedure.backend pending session := by
  unfold worker
  rw [Process.run_ask, Batch.work_eq_ite]
  cases session.answer (Batch.contextOf pending) 0 with
  | true => exact run_told (onlyLogs_cancelBeforeStart pending.unit _) _ rfl
  | false =>
    have htransition := onlyLogs_transition pending.unit (Batch.contextOf pending) .running
      session.polled rfl
    -- What is compiled is the unit that is running now, and its job is the one it had.
    have hjob := pending.unit.job_transition .running (Batch.contextOf pending) (blank session.elapsed)
    change _ = Batch.reportOf pending.unit
      (pending.unit.execute procedure.backend (Batch.contextOf pending) session.polled)
    unfold WorkUnit.execute
    rw [htransition]
    have helapsed : session.polled.elapsed = session.elapsed := rfl
    rw [helapsed]
    generalize pending.unit.transition .running (Batch.contextOf pending) (blank session.elapsed) =
      running at hjob
    simp only [Bool.false_eq_true, if_false, Process.run_note, Process.run_bind, hjob,
      Session.trace_eq, Session.noteAll_noteAll]
    -- What is logged at the end does not depend on what was logged before.
    exact run_told (onlyLogs_conclude running.1 pending.unit _ _) _ (Process.elapsed_run _ _ _)

end Procedure

end Vitae
