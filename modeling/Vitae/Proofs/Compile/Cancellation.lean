import Vitae.Compile.Backend

/-!
# Requests to Stop

A compilation polls at most six times, and each time the answer can be anything: a
request may come, go away and come again. What happens is decided by the first answer
that is a request, among the polls that a compilation makes when it is left alone. If
there is one, the compilation ends there, before the stage it was asked about, having
made no further poll and entered no further stage. If there is none, the compilation
is the one that was left alone, with the same end, the same files and the same log.

So a request never hides a failure that comes before it, and a failure never hides a
request that comes before it.

The statement is about steps and not only about whole compilations. A step that heeds
requests behind its own polls heeds them behind one more in front (`heeds_checkpoint`),
and work between two polls does not matter (`Heeds.of_worked`). The stages are put
together from the last one to the first.

That no stage is entered is read off the log, where entering leaves a note when
progress is logged. Logging the progress changes nothing else (`SameButLog`), so it
can be turned on to watch any compilation.

## Main definitions

* `enteredStages`: The stages that a log says were entered.
* `Session.firstStop`: The first poll that is answered with a request.
* `StoppedAt`, `Heeds`: A step that stops at the first request, and at no other time.
* `SameButLog`: Two steps that differ only in what they log.

## Theorems

* `Session.firstStop_succ`: The first request comes at the next poll or later.
* `heeds_checkpoint`, `Heeds.of_worked`: Steps that heed requests are put together.
* `heeds_renderDocument`: A compilation heeds requests.
* `sameButLog_renderDocument`: Logging the progress changes nothing but the log.
* `renderDocument_cancellation`: The first request decides.
-/

namespace Vitae

/-- The stage that an entry of the log says was entered. -/
def LogEntry.entered? (entry : LogEntry) : Option Stage :=
  if entry.message = "entering stage" then
    Stage.all.find? (fun stage => entry.fields.lookup "stage" == some (.plain stage.name))
  else none

/-- The stages that were entered between two points of a log. -/
def enteredStages (entries : List LogEntry) : List Stage :=
  entries.filterMap LogEntry.entered?

/-- The stages that are asked about, in the order of the polls. Before a draft is
published there is one more poll, which belongs to the last stage. -/
def polledStages : List Stage :=
  Stage.all ++ [.write]

namespace Session

/-- A session that no one asks to stop. -/
def undisturbed (session : Session) : Session :=
  { session with token := .fresh, outside := fun _ => false }

/-- A session with the requests to stop of another one. -/
def disturbedAs (session original : Session) : Session :=
  { session with token := original.token, outside := original.outside }

/-- The answer to the poll of the given number, counted from now. -/
def answer (session : Session) (context : Context) (index : Nat) : Bool :=
  context.armed && (session.token.isCancelled || session.outside (session.polls + index))

/-- The first of the next `count` polls that is answered with a request to stop. -/
def firstStop (session : Session) (context : Context) (count : Nat) : Option Nat :=
  (List.range count).find? (session.answer context)

/-- The session after a poll. -/
def polled (session : Session) : Session :=
  { session with polls := session.polls + 1 }

theorem poll_eq (session : Session) (context : Context) :
    session.poll context = (session.answer context 0, session.polled) :=
  rfl

theorem answer_succ (session : Session) (context : Context) (index : Nat) :
    session.answer context (index + 1) = session.polled.answer context index := by
  rw [answer, answer, polled, Nat.add_right_comm]
  rfl

theorem firstStop_zero (session : Session) (context : Context) :
    session.firstStop context 0 = none :=
  rfl

/-- The first request to stop is the answer to the next poll or comes later. -/
theorem firstStop_succ (session : Session) (context : Context) (count : Nat) :
    session.firstStop context (count + 1) =
      if session.answer context 0 then some 0
      else (session.polled.firstStop context count).map (· + 1) := by
  have hlater : session.answer context ∘ Nat.succ = session.polled.answer context :=
    funext fun index => session.answer_succ context index
  rw [firstStop, firstStop, List.range_succ_eq_map, List.find?_cons, List.find?_map, hlater]
  cases session.answer context 0 <;> rfl

/-- What entering a stage leaves in the log. -/
def enterNotes (context : Context) (stage : Stage) : List LogEntry :=
  if context.debug then [progress context "entering stage" [("stage", .plain stage.name)]] else []

/-- What a note on the progress leaves in the log. -/
def traceNotes (context : Context) (message : String) : List LogEntry :=
  if context.debug then [progress context message []] else []

theorem enter_eq (session : Session) (context : Context) (stage : Stage) :
    session.enter context stage = session.noteAll (enterNotes context stage) := by
  unfold enter enterNotes noteAll
  split
  · rfl
  · rw [List.append_nil]

theorem trace_eq (session : Session) (context : Context) (message : String) :
    session.trace context message = session.noteAll (traceNotes context message) := by
  unfold trace traceNotes noteAll
  split
  · rfl
  · rw [List.append_nil]

end Session

section Entered

theorem enteredStages_append (xs ys : List LogEntry) :
    enteredStages (xs ++ ys) = enteredStages xs ++ enteredStages ys :=
  List.filterMap_append

theorem enteredStages_enterNotes {context : Context} (h : context.debug = true) (stage : Stage) :
    enteredStages (Session.enterNotes context stage) = [stage] := by
  rw [Session.enterNotes, if_pos h]
  cases stage <;> rfl

theorem enteredStages_entries (shelf : Shelf) : enteredStages shelf.entries = [] := by
  refine List.filterMap_eq_nil_iff.mpr fun entry hentry => ?_
  obtain ⟨use, -, rfl⟩ := List.mem_map.mp hentry
  unfold LogEntry.entered? FileUse.entry
  cases use.remembered <;> rfl

/-- A note that begins with another letter is not about a stage. -/
theorem enteredStages_traceNotes (context : Context) {message : String}
    (h : message.toList.head? ≠ some 'e') : enteredStages (Session.traceNotes context message) = [] := by
  have hmessage : message ≠ "entering stage" := by
    rintro rfl
    exact h rfl
  unfold Session.traceNotes
  split
  · rw [enteredStages, List.filterMap_cons, LogEntry.entered?, if_neg]
    · rfl
    · exact hmessage
  · rfl

end Entered

/-- A run of a step that stopped at the poll with the given number, and entered no
stage behind it. -/
structure StoppedAt (context : Context) (stages : List Stage) (index : Nat) (session : Session)
    (result : Ending × Session) : Prop where
  ending : ∃ stage, stages[index]? = some stage ∧ result.1 = .interrupted stage
  polls : result.2.polls = session.polls + (index + 1)
  entered : ∃ entries, result.2.log = session.log ++ entries ∧
    (context.debug = true → enteredStages entries = stages.take index)

/-- A step that polls before the given stages, or before the first few of them, and
stops at the first request to do so. Without one it does what it does when no one
asks. -/
def Heeds (context : Context) (stages : List Stage) (step : Session → Ending × Session)
    (session : Session) : Prop :=
  ∃ count ≤ stages.length,
    (step session.undisturbed).2.polls = session.polls + count ∧
    match session.firstStop context count with
    | some index => StoppedAt context stages index session (step session)
    | none => step session =
        ((step session.undisturbed).1, (step session.undisturbed).2.disturbedAs session)

/-- A step that does not poll. -/
theorem heeds_of_quiet {context : Context} {stages : List Stage} {step : Session → Ending × Session}
    {session : Session} (hpolls : (step session.undisturbed).2.polls = session.polls)
    (h : step session =
      ((step session.undisturbed).1, (step session.undisturbed).2.disturbedAs session)) :
    Heeds context stages step session :=
  ⟨0, Nat.zero_le _, hpolls, h⟩

/-- A session after work that neither polls nor enters a stage. -/
structure Worked (session after : Session) : Prop where
  polls : after.polls = session.polls
  token : after.token = session.token
  outside : after.outside = session.outside
  log : ∃ entries, after.log = session.log ++ entries ∧ enteredStages entries = []

theorem worked_store (session : Session) (store : Store) :
    Worked session { session with store := store } :=
  ⟨rfl, rfl, rfl, [], (List.append_nil _).symm, rfl⟩

theorem worked_noteAll (session : Session) {entries : List LogEntry}
    (h : enteredStages entries = []) : Worked session (session.noteAll entries) :=
  ⟨rfl, rfl, rfl, entries, rfl, h⟩

/-- A step may work before it goes on with another one. -/
theorem Heeds.of_worked {context : Context} {stages : List Stage}
    {step next : Session → Ending × Session} {session after : Session} (hwork : Worked session after)
    (h : step session = next after) (hquiet : step session.undisturbed = next after.undisturbed)
    (hnext : Heeds context stages next after) : Heeds context stages step session := by
  obtain ⟨hpoll, htoken, houtside, notes, hlog, hnotes⟩ := hwork
  obtain ⟨count, hle, hpolls, hresult⟩ := hnext
  have hsame : after.firstStop context count = session.firstStop context count := by
    unfold Session.firstStop Session.answer
    rw [hpoll, htoken, houtside]
  have hdisturbed : ∀ s : Session, s.disturbedAs after = s.disturbedAs session := by
    intro s
    rw [Session.disturbedAs, htoken, houtside]
    rfl
  refine ⟨count, hle, by rw [hquiet, hpolls, hpoll], ?_⟩
  rw [hsame] at hresult
  rw [h, hquiet]
  split at hresult
  · obtain ⟨hending, hindex, entries, hmore, hentered⟩ := hresult
    refine ⟨hending, by rw [hindex, hpoll], notes ++ entries, ?_, fun hdebug => ?_⟩
    · rw [hmore, hlog, List.append_assoc]
    · rw [enteredStages_append, hnotes, List.nil_append, hentered hdebug]
  · rw [← hdisturbed]
    exact hresult

/-- Asking before a stage puts one more poll in front of those of the stage. -/
theorem heeds_checkpoint {context : Context} (stage : Stage) {stages : List Stage}
    {next : Session → Ending × Session} {session : Session}
    (h : Heeds context stages next (session.polled.noteAll (Session.enterNotes context stage))) :
    Heeds context (stage :: stages) (checkpoint context stage next) session := by
  have hquiet : checkpoint context stage next session.undisturbed =
      next (session.polled.noteAll (Session.enterNotes context stage)).undisturbed := by
    have hno : session.undisturbed.answer context 0 = false := Bool.and_false _
    rw [checkpoint, Session.poll_eq, hno]
    simp only [Session.enter_eq]
    rfl
  obtain ⟨count, hle, hpolls, hresult⟩ := h
  refine ⟨count + 1, Nat.succ_le_succ hle, ?_, ?_⟩
  · rw [hquiet, hpolls]
    exact Nat.add_right_comm session.polls 1 count
  · rw [hquiet, Session.firstStop_succ]
    cases hanswer : session.answer context 0 with
    | true =>
      -- The stage is not entered, and neither is any other.
      rw [if_pos rfl, checkpoint, Session.poll_eq, hanswer]
      exact ⟨⟨stage, rfl, rfl⟩, rfl, [], (List.append_nil _).symm, fun _ => rfl⟩
    | false =>
      rw [if_neg Bool.false_ne_true, checkpoint, Session.poll_eq, hanswer]
      simp only [Session.enter_eq]
      have hsame : (session.polled.noteAll (Session.enterNotes context stage)).firstStop context
          count = session.polled.firstStop context count := rfl
      rw [hsame] at hresult
      split at hresult
      · rename_i index hstop
        rw [hstop]
        obtain ⟨hending, hindex, notes, hlog, hentered⟩ := hresult
        refine ⟨hending, ?_, Session.enterNotes context stage ++ notes, ?_, fun hdebug => ?_⟩
        · rw [hindex]
          simp only [Session.noteAll, Session.polled]
          omega
        · rw [hlog, ← List.append_assoc]
          rfl
        · rw [enteredStages_append, enteredStages_enterNotes hdebug, hentered hdebug]
          rfl
      · rename_i hstop
        rw [hstop]
        exact hresult

/-- The last poll comes when the draft is ready, and nothing is entered behind it. -/
theorem heeds_publishDraft (job : Job) (context : Context) (contents : Bytes) (pages : Nat)
    (session : Session) : Heeds context [.write] (publishDraft job context contents pages) session := by
  have hno : session.undisturbed.answer context 0 = false := Bool.and_false _
  refine ⟨1, Nat.le_refl 1, ?_, ?_⟩
  · rw [publishDraft, Session.poll_eq, hno]
    simp only [Session.trace_eq]
    split <;> rfl
  · rw [Session.firstStop_succ, Session.firstStop_zero]
    cases hanswer : session.answer context 0 with
    | true =>
      rw [if_pos rfl, publishDraft, Session.poll_eq, hanswer]
      exact ⟨⟨.write, rfl, rfl⟩, rfl, [], (List.append_nil _).symm, fun _ => rfl⟩
    | false =>
      rw [if_neg Bool.false_ne_true, Option.map_none]
      simp only [publishDraft, Session.poll_eq, hanswer, hno, Session.trace_eq]
      -- What is published does not depend on who may ask to stop.
      have hstore : session.undisturbed.polled.store = session.polled.store := rfl
      rw [hstore]
      rcases session.polled.store.commit job.output with ⟨_ | _, _⟩ <;> rfl

theorem heeds_writeStage (job : Job) (context : Context) (contents : Bytes) (pages : Nat)
    (session : Session) : Heeds context [.write] (writeStage job context contents pages) session := by
  have hstore : session.undisturbed.store = session.store := rfl
  cases hfolders : session.store.makeFolders job.output.directory with
  | mk made store =>
    cases made with
    | error refusal =>
      refine heeds_of_quiet ?_ ?_ <;> simp only [writeStage, hstore, hfolders] <;> rfl
    | ok =>
      cases hprepare : store.prepare job.output.directory contents with
      | mk prepared drafted =>
        cases prepared with
        | error refusal =>
          refine heeds_of_quiet ?_ ?_ <;> simp only [writeStage, hstore, hfolders, hprepare] <;> rfl
        | ok =>
          refine (heeds_publishDraft job context contents pages _).of_worked
            (worked_store session drafted) ?_ ?_ <;>
            simp only [writeStage, hstore, hfolders, hprepare] <;> rfl

theorem heeds_encodeStage (page : PageConfig) (job : Job) (context : Context) (document : Document)
    (pages : List Page) (session : Session) :
    Heeds context [.write, .write] (encodeStage page job context document pages) session :=
  heeds_checkpoint .write (heeds_writeStage job context _ _ _)

theorem heeds_layoutStage (page : PageConfig) (job : Job) (context : Context) (document : Document)
    (session : Session) :
    Heeds context [.encode, .write, .write] (layoutStage page job context document) session := by
  have hnotes : enteredStages (Session.traceNotes context ("laid out " ++
      toString (compose document job.kind job.options page).length ++ " page(s)")) = [] := by
    refine enteredStages_traceNotes context ?_
    simp [String.toList_append]
  have hnext : ∀ after, Heeds context [.encode, .write, .write] (checkpoint context .encode
      (encodeStage page job context document (compose document job.kind job.options page))) after :=
    fun _ => heeds_checkpoint .encode (heeds_encodeStage page job context document _ _)
  refine (hnext _).of_worked (worked_noteAll session hnotes) ?_ ?_ <;>
    simp only [layoutStage, Session.trace_eq] <;> rfl

theorem heeds_analyzeStage (page : PageConfig) (job : Job) (context : Context) (source : Source)
    (session : Session) :
    Heeds context [.layout, .encode, .write, .write] (analyzeStage page job context source)
      session := by
  have hstore : session.undisturbed.store = session.store := rfl
  cases hanalyze : analyze job.kind (session.store.loadItems (itemFolder job.source)) source with
  | error problems =>
    refine heeds_of_quiet ?_ ?_ <;> simp only [analyzeStage, hstore, hanalyze] <;> rfl
  | ok document =>
    have hnotes : enteredStages
        ((Analysis.run job.kind (session.store.loadItems (itemFolder job.source)) source).shelf.entries ++
          Session.traceNotes context
            ("analyzed " ++ toString document.sections.length ++ " section(s)")) = [] := by
      rw [enteredStages_append, enteredStages_entries, List.nil_append]
      refine enteredStages_traceNotes context ?_
      simp [String.toList_append]
    have hnext : ∀ after, Heeds context [.layout, .encode, .write, .write]
        (checkpoint context .layout (layoutStage page job context document)) after :=
      fun _ => heeds_checkpoint .layout (heeds_layoutStage page job context document _)
    refine (hnext _).of_worked (worked_noteAll session hnotes) ?_ ?_ <;>
      simp only [analyzeStage, hstore, hanalyze, Session.trace_eq, Session.noteAll,
        List.append_assoc] <;> rfl

theorem heeds_loadStage (page : PageConfig) (job : Job) (context : Context) (session : Session) :
    Heeds context [.analyze, .layout, .encode, .write, .write] (loadStage page job context)
      session := by
  have hstore : session.undisturbed.store = session.store := rfl
  cases hread : readSource session.store job with
  | error error =>
    refine heeds_of_quiet ?_ ?_ <;> simp only [loadStage, hstore, hread] <;> rfl
  | ok source =>
    have hnext := heeds_checkpoint .analyze
      (heeds_analyzeStage page job context source
        (session.polled.noteAll (Session.enterNotes context .analyze)))
    have hload : ∀ after : Session, after.store = session.store →
        loadStage page job context after =
          checkpoint context .analyze (analyzeStage page job context source) after := by
      intro after hafter
      simp only [loadStage, hafter, hread]
    exact hnext.of_worked (worked_store session session.store) (hload session rfl)
      (hload session.undisturbed hstore)

theorem heeds_renderDocument (page : PageConfig) (job : Job) (context : Context)
    (session : Session) : Heeds context polledStages (renderDocument page job context) session :=
  heeds_checkpoint .load (heeds_loadStage page job context _)

section Watched

/-- Two steps that differ only in what they log. -/
def SameButLog (step watched : Session → Ending × Session) : Prop :=
  ∀ session log, ∃ log', watched { session with log := log } =
    ((step session).1, { (step session).2 with log := log' })

variable {context watching : Context}

/-- The notes that are made first may differ as well. -/
theorem SameButLog.noteAll {step watched : Session → Ending × Session} (h : SameButLog step watched)
    (session : Session) (log entries watchedEntries : List LogEntry) :
    ∃ log', watched (({ session with log := log } : Session).noteAll watchedEntries) =
      ((step (session.noteAll entries)).1, { (step (session.noteAll entries)).2 with log := log' }) :=
  h (session.noteAll entries) (log ++ watchedEntries)

theorem sameButLog_checkpoint (harmed : watching.armed = context.armed) (stage : Stage)
    {next watchedNext : Session → Ending × Session} (h : SameButLog next watchedNext) :
    SameButLog (checkpoint context stage next) (checkpoint watching stage watchedNext) := by
  intro session log
  have hanswer : ({ session with log := log } : Session).answer watching 0 =
      session.answer context 0 := by
    rw [Session.answer, Session.answer, harmed]
  simp only [checkpoint, Session.poll_eq, hanswer]
  cases session.answer context 0 with
  | true => exact ⟨log, rfl⟩
  | false =>
    simp only [Session.enter_eq]
    exact h.noteAll session.polled log _ _

theorem sameButLog_publishDraft (harmed : watching.armed = context.armed) (job : Job)
    (contents : Bytes) (pages : Nat) :
    SameButLog (publishDraft job context contents pages)
      (publishDraft job watching contents pages) := by
  intro session log
  have hanswer : ({ session with log := log } : Session).answer watching 0 =
      session.answer context 0 := by
    rw [Session.answer, Session.answer, harmed]
  have hstore : ({ session with log := log } : Session).polled.store = session.polled.store := rfl
  simp only [publishDraft, Session.poll_eq, hanswer, Session.trace_eq]
  cases session.answer context 0 with
  | true => exact ⟨log, rfl⟩
  | false =>
    simp only [hstore]
    rcases session.polled.store.commit job.output with ⟨_ | _, _⟩ <;> exact ⟨_, rfl⟩

theorem sameButLog_writeStage (harmed : watching.armed = context.armed) (job : Job)
    (contents : Bytes) (pages : Nat) :
    SameButLog (writeStage job context contents pages) (writeStage job watching contents pages) := by
  intro session log
  simp only [writeStage]
  rcases session.store.makeFolders job.output.directory with ⟨_ | _, store⟩
  · exact ⟨log, rfl⟩
  · simp only
    rcases store.prepare job.output.directory contents with ⟨_ | _, drafted⟩
    · exact ⟨log, rfl⟩
    · exact sameButLog_publishDraft harmed job contents pages { session with store := drafted } log

theorem sameButLog_layoutStage (harmed : watching.armed = context.armed) (page : PageConfig)
    (job : Job) (document : Document) :
    SameButLog (layoutStage page job context document) (layoutStage page job watching document) := by
  intro session log
  have hencode : SameButLog
      (encodeStage page job context document (compose document job.kind job.options page))
      (encodeStage page job watching document (compose document job.kind job.options page)) :=
    sameButLog_checkpoint harmed .write (sameButLog_writeStage harmed job _ _)
  simp only [layoutStage, Session.trace_eq]
  exact (sameButLog_checkpoint harmed .encode hencode).noteAll session log _ _

theorem sameButLog_analyzeStage (harmed : watching.armed = context.armed) (page : PageConfig)
    (job : Job) (source : Source) :
    SameButLog (analyzeStage page job context source) (analyzeStage page job watching source) := by
  intro session log
  simp only [analyzeStage, Session.trace_eq]
  cases analyze job.kind (session.store.loadItems (itemFolder job.source)) source with
  | error problems => exact ⟨_, rfl⟩
  | ok document =>
    exact (sameButLog_checkpoint harmed .layout
      (sameButLog_layoutStage harmed page job document)).noteAll (session.noteAll _) (log ++ _) _ _

theorem sameButLog_loadStage (harmed : watching.armed = context.armed) (page : PageConfig)
    (job : Job) :
    SameButLog (loadStage page job context) (loadStage page job watching) := by
  intro session log
  simp only [loadStage]
  cases readSource session.store job with
  | error error => exact ⟨log, rfl⟩
  | ok source =>
    exact sameButLog_checkpoint harmed .analyze
      (sameButLog_analyzeStage harmed page job source) session log

/-- Whether progress is logged makes no difference but to the log. -/
theorem sameButLog_renderDocument (harmed : watching.armed = context.armed) (page : PageConfig)
    (job : Job) :
    SameButLog (renderDocument page job context) (renderDocument page job watching) :=
  sameButLog_checkpoint harmed .load (sameButLog_loadStage harmed page job)

end Watched

/-- The first poll that is answered with a request to stop decides how a compilation
ends, as long as it comes before the compilation would have ended by itself. Without
one, and with one that comes later, it ends as it would have if no one had asked. -/
theorem renderDocument_cancellation (page : PageConfig) (job : Job) (context : Context)
    (session : Session) :
    let quiet := renderDocument page job context session.undisturbed
    let result := renderDocument page job context session
    ∃ count ≤ 6, quiet.2.polls = session.polls + count ∧
      match session.firstStop context count with
      | some index =>
        (∃ stage, [Stage.load, .analyze, .layout, .encode, .write, .write][index]? = some stage ∧
          result.1 = .interrupted stage) ∧
        result.2.polls = session.polls + (index + 1) ∧
        ∃ entries, renderDocument page job { context with debug := true } session =
            (result.1, { result.2 with log := session.log ++ entries }) ∧
          enteredStages entries = Stage.all.take index
      | none => result = (quiet.1, quiet.2.disturbedAs session) := by
  intro quiet result
  obtain ⟨count, hle, hpolls, hresult⟩ := heeds_renderDocument page job context session
  refine ⟨count, hle, hpolls, ?_⟩
  split at hresult
  · rename_i index hstop
    refine ⟨hresult.ending, hresult.polls, ?_⟩
    -- A run that logs its progress stops at the same poll, and its log tells the stages.
    have harmed : ({ context with debug := true } : Context).armed = context.armed := rfl
    have hsame := sameButLog_renderDocument harmed page job
    obtain ⟨log, hwatched⟩ := hsame session session.log
    obtain ⟨_, hquiet⟩ := hsame session.undisturbed session.undisturbed.log
    obtain ⟨count', -, hpolls', hresult'⟩ :=
      heeds_renderDocument page job { context with debug := true } session
    have hcount : count' = count := by
      have hpolls'' := congrArg (fun r : Ending × Session => r.2.polls) hquiet
      exact Nat.add_left_cancel (hpolls'.symm.trans (hpolls''.trans hpolls))
    have hstop' : session.firstStop { context with debug := true } count' = some index := by
      rw [hcount]
      exact hstop
    rw [hstop'] at hresult'
    obtain ⟨entries, hlog, hentered⟩ := hresult'.entered
    have hlogs := congrArg (fun r : Ending × Session => r.2.log) hwatched
    refine ⟨entries, ?_, ?_⟩
    · rw [← hlog]
      exact hwatched.trans (congrArg (fun l => ((result.1, { result.2 with log := l }) :
        Ending × Session)) hlogs.symm)
    · obtain ⟨stage, hstage, -⟩ := hresult.ending
      have hlt : index < polledStages.length := (List.getElem?_eq_some_iff.mp hstage).1
      have hle : index ≤ Stage.all.length := Nat.le_of_lt_succ hlt
      rw [hentered rfl, polledStages, List.take_append_of_le_length hle]
  · exact hresult

end Vitae
