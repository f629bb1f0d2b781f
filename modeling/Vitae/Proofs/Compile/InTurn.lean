import Vitae.Proofs.Compile.Output
import Vitae.Proofs.Compile.Workers

/-!
# Workers One After Another

A batch that is joined runs its units one after another. That is one of the ways in which
workers can take turns: each has all its turns in a row, in the order of the schedule. The
reports, the files and the log are the same, as long as no procedure leaves drafts behind,
which is true of the one for documents.

So what holds for all turns holds for a batch that is joined, whatever the schedule.

## Main definitions

* `Procedure.Tidy`: A procedure that leaves no drafts.
* `Crew.Ran`: A crew that has done what a batch does with a schedule.

## Theorems

* `Crew.exists_turns`: A worker with all its turns in a row.
* `Crew.exists_turns_workAll`: Workers one after another.
* `Config.exists_turns_finish`: A batch that is joined is a crew that has finished.
* `Config.exists_turns_document`: The same for documents.
-/

namespace Vitae

/-- A procedure that leaves no drafts. -/
def Procedure.Tidy (procedure : Procedure) : Prop :=
  ∀ job context session, session.store.drafts = [] →
    (procedure.backend.render job context session).2.store.drafts = []

theorem Procedure.tidy_document (page : PageConfig) : (Procedure.document page).Tidy := by
  intro job context session h
  have hall := renderDocument_allOrNothing page job context session
  rw [backend_document]
  change (renderDocument page job context session).2.store.drafts = []
  simp only at hall
  split at hall
  · obtain ⟨-, _, _, _, -, -, -, hreplaced⟩ := hall
    exact hreplaced.drafts.trans h
  · exact hall.drafts.trans h
  · exact hall.drafts.trans h
  · exact hall.elim

namespace Batch

variable {procedure : Procedure} {pending : Pending} {session : Session}

theorem elapsed_work (procedure : Procedure) (pending : Pending) (session : Session) :
    (work procedure.backend pending session).2.elapsed = session.elapsed := by
  rw [← procedure.run_worker]
  exact Process.elapsed_run _ _ _

/-- A worker that follows such a procedure leaves no drafts either. -/
theorem drafts_work (htidy : procedure.Tidy) (h : session.store.drafts = []) :
    (work procedure.backend pending session).2.store.drafts = [] := by
  rw [← procedure.run_worker]
  unfold Procedure.worker
  rw [Process.run_ask]
  cases session.answer (contextOf pending) 0 with
  | true => exact h
  | false =>
    simp only [Bool.false_eq_true, if_false, Process.run_note, Process.run_bind]
    exact htidy pending.unit.job (contextOf pending) _ h

end Batch

namespace Crew

variable {crew : Crew} {kind : Kind} {procedure : Procedure}

/-- A worker that has all its turns in a row does all that it has to do. -/
theorem exists_turns {pending : Pending} {process : Process Report} {drafts : List Draft}
    {answers : List Bool} (h : crew.workers kind = some ⟨pending, process, drafts, answers⟩) :
    ∃ turns told,
      let ran := process.run (Batch.contextOf pending) (crew.session.withDrafts drafts)
      crew.take turns =
        { crew with
          workers := Function.update crew.workers kind
            (some ⟨pending, .done ran.1, ran.2.store.drafts, told⟩)
          session := ran.2.withDrafts crew.session.store.drafts } := by
  -- By induction on what is left to be done: after a turn it is a part of that.
  induction process generalizing crew drafts answers with
  | done report =>
    refine ⟨[], answers, ?_⟩
    have hworkers := Function.update_eq_self kind crew.workers
    rw [h] at hworkers
    exact congrArg (fun workers => { crew with workers := workers }) hworkers.symm
  | ask next ih =>
    obtain ⟨turns, told, htake⟩ := ih _ (worker_turn h)
    refine ⟨kind :: turns, told, ?_⟩
    rw [take_cons, htake, turn_of_some h]
    simp only [Function.update_idem]
    rfl
  | act effect next ih =>
    obtain ⟨turns, told, htake⟩ := ih _ (worker_turn h)
    refine ⟨kind :: turns, told, ?_⟩
    rw [take_cons, htake, turn_of_some h]
    simp only [Function.update_idem]
    rfl

/-- A worker that begins when there are no drafts does what a worker of a batch does. -/
theorem exists_turns_start (htidy : procedure.Tidy) {p : Pending}
    (h : crew.workers p.unit.kind = some (.start procedure crew.session.elapsed p))
    (hdrafts : crew.session.store.drafts = []) :
    ∃ turns worker, worker.report? = some (Batch.work procedure.backend p crew.session).1 ∧
      crew.take turns =
        { crew with
          workers := Function.update crew.workers p.unit.kind (some worker)
          session := (Batch.work procedure.backend p crew.session).2 } := by
  obtain ⟨turns, told, htake⟩ := exists_turns h
  have hsession : crew.session.withDrafts [] = crew.session := by
    rw [← hdrafts]
    rfl
  have hafter : (Batch.work procedure.backend p crew.session).2.withDrafts
      crew.session.store.drafts = (Batch.work procedure.backend p crew.session).2 := by
    rw [hdrafts, ← Batch.drafts_work htidy hdrafts]
    rfl
  -- Without drafts the worker sees the files as everyone does.
  simp only [hsession, procedure.run_worker, hafter] at htake
  exact ⟨turns, _, rfl, htake⟩

/-- A crew that has done what a batch does with a schedule. -/
structure Ran (backend : Backend) (schedule : List Pending) (before after : Crew) : Prop where
  recorded : after.recorded = before.recorded
  session : after.session = (Batch.workAll backend schedule before.session).2
  reported : ∀ p ∈ schedule, ∃ worker report, after.workers p.unit.kind = some worker ∧
    worker.report? = some report ∧
    (Batch.workAll backend schedule before.session).1.lookup p.ticket = some report
  others : ∀ kind, (∀ p ∈ schedule, p.unit.kind ≠ kind) → after.workers kind = before.workers kind

/-- A worker that has all its turns before those that come next. -/
theorem Ran.cons {backend : Backend} {p : Pending} {rest : List Pending} {worker : Worker}
    {before middle after : Crew} (hrecorded : middle.recorded = before.recorded)
    (hsession : middle.session = (Batch.work backend p before.session).2)
    (hworkers : ∀ kind, middle.workers kind =
      if kind = p.unit.kind then some worker else before.workers kind)
    (hreport : worker.report? = some (Batch.work backend p before.session).1)
    (hkinds : ∀ q ∈ rest, q.unit.kind ≠ p.unit.kind) (htickets : ∀ q ∈ rest, q.ticket ≠ p.ticket)
    (h : Ran backend rest middle after) : Ran backend (p :: rest) before after where
  recorded := h.recorded.trans hrecorded
  session := by
    rw [h.session, hsession]
    rfl
  reported := by
    intro q hq
    rw [Batch.workAll_cons, List.lookup_cons]
    rcases List.mem_cons.mp hq with rfl | hq
    · -- The worker who was first is left alone by those that come next.
      rw [beq_self_eq_true]
      refine ⟨worker, _, ?_, hreport, rfl⟩
      rw [h.others _ hkinds, hworkers, if_pos rfl]
    · rw [beq_eq_false_iff_ne.mpr (htickets q hq), ← hsession]
      exact h.reported q hq
  others := by
    intro kind hkind
    rw [h.others kind fun q hq => hkind q (List.mem_cons_of_mem p hq), hworkers,
      if_neg (hkind p List.mem_cons_self).symm]

/-- Workers that have all their turns in a row, one after another, do what a batch does. -/
theorem exists_turns_workAll (htidy : procedure.Tidy) {schedule : List Pending}
    (h : ∀ p ∈ schedule, crew.workers p.unit.kind = some (.start procedure crew.session.elapsed p))
    (hkinds : (schedule.map fun p => p.unit.kind).Nodup)
    (htickets : (schedule.map Pending.ticket).Nodup) (hdrafts : crew.session.store.drafts = []) :
    ∃ turns, Ran procedure.backend schedule crew (crew.take turns) := by
  induction schedule generalizing crew with
  | nil => exact ⟨[], rfl, rfl, fun _ hp => absurd hp List.not_mem_nil, fun _ _ => rfl⟩
  | cons p rest ih =>
    rw [List.map_cons, List.nodup_cons] at hkinds htickets
    have hothers : ∀ q ∈ rest, q.unit.kind ≠ p.unit.kind := fun q hq heq =>
      hkinds.1 (heq ▸ List.mem_map_of_mem (f := fun p : Pending => p.unit.kind) hq)
    obtain ⟨first, worker, hreport, hfirst⟩ :=
      exists_turns_start htidy (h p List.mem_cons_self) hdrafts
    have hsession : (crew.take first).session = (Batch.work procedure.backend p crew.session).2 := by
      rw [hfirst]
    have hworkers : ∀ kind, (crew.take first).workers kind =
        if kind = p.unit.kind then some worker else crew.workers kind := by
      rw [hfirst]
      exact fun _ => Function.update_apply ..
    -- The others have not had a turn yet, and there are no drafts again.
    have hstart : ∀ q ∈ rest, (crew.take first).workers q.unit.kind =
        some (.start procedure (crew.take first).session.elapsed q) := by
      intro q hq
      rw [hworkers, if_neg (hothers q hq), hsession, Batch.elapsed_work]
      exact h q (List.mem_cons_of_mem p hq)
    have hnodrafts : (crew.take first).session.store.drafts = [] := by
      rw [hsession]
      exact Batch.drafts_work htidy hdrafts
    obtain ⟨turns, hran⟩ := ih hstart hkinds.2 htickets.2 hnodrafts
    refine ⟨first ++ turns, ?_⟩
    rw [take_append]
    exact hran.cons (recorded_take crew first) hsession hworkers hreport hothers
      fun q hq heq => htickets.1 (heq ▸ List.mem_map_of_mem hq)

end Crew

namespace Results

/-- Results are the same if the reports on all kinds of documents are. -/
theorem ext_get? {results other : Results} (h : ∀ kind, results.get? kind = other.get? kind) :
    results = other := by
  obtain ⟨cv, letter⟩ := results
  exact congrArg₂ Results.mk (h .cv) (h .coverLetter)

end Results

namespace Crew.Ran

variable {backend : Backend} {schedule pending : List Pending} {before after : Crew}

/-- Every worker that there is has reported, if all of them were in the schedule. -/
theorem exists_mem (h : Ran backend schedule before after)
    (hall : ∀ kind, (∀ p ∈ schedule, p.unit.kind ≠ kind) → before.workers kind = none) {kind : Kind}
    {worker : Worker} (hworker : after.workers kind = some worker) :
    ∃ p ∈ schedule, ∃ report, p.unit.kind = kind ∧ worker.report? = some report ∧
      (Batch.workAll backend schedule before.session).1.lookup p.ticket = some report := by
  by_cases hkind : ∃ p ∈ schedule, p.unit.kind = kind
  · obtain ⟨p, hp, rfl⟩ := hkind
    obtain ⟨_, report, hsame, hreport, hlookup⟩ := h.reported p hp
    cases hsame.symm.trans hworker
    exact ⟨p, hp, report, rfl, hreport, hlookup⟩
  · have hidle : ∀ p ∈ schedule, p.unit.kind ≠ kind := fun p hp heq => hkind ⟨p, hp, heq⟩
    rw [h.others kind hidle, hall kind hidle] at hworker
    cases hworker

theorem finished (h : Ran backend schedule before after)
    (hall : ∀ kind, (∀ p ∈ schedule, p.unit.kind ≠ kind) → before.workers kind = none) :
    after.Finished := by
  intro kind worker hworker
  obtain ⟨_, -, report, -, hreport, -⟩ := h.exists_mem hall hworker
  rw [hreport]
  rfl

/-- What is on record is what a batch records that runs the same units. -/
theorem results (h : Ran backend schedule before after)
    (hall : ∀ kind, (∀ p ∈ schedule, p.unit.kind ≠ kind) → before.workers kind = none)
    (hstatus : ∀ p ∈ schedule, p.unit.status = .pending)
    (htickets : (schedule.map Pending.ticket).Nodup) (hschedule : schedule.Perm pending)
    (hkinds : (pending.map fun p => p.unit.kind).Nodup) :
    after.results = before.recorded.recordEach
      (fun p => (Batch.workAll backend schedule before.session).1.lookup p.ticket) pending := by
  have howns : ∀ p ∈ schedule, ∀ report,
      (Batch.workAll backend schedule before.session).1.lookup p.ticket = some report →
        report.kind = p.unit.kind := fun p hp _ => Batch.kind_of_lookup_workAll htickets hstatus hp
  have hreports : after.ReportsOwn := by
    intro kind worker report hworker hreport
    obtain ⟨p, hp, _, rfl, hsame, hlookup⟩ := h.exists_mem hall hworker
    cases hsame.symm.trans hreport
    exact howns p hp report hlookup
  refine Results.ext_get? fun kind => ?_
  rw [get?_results hreports, h.recorded]
  cases hworker : after.workers kind with
  | some worker =>
    obtain ⟨p, hp, report, rfl, hreport, hlookup⟩ := h.exists_mem hall hworker
    rw [Option.bind_some, hreport]
    exact (Results.get?_recordEach_of_mem (fun p : Pending => p.unit.kind)
      (fun q hq => howns q (hschedule.mem_iff.mpr hq)) hkinds (hschedule.mem_iff.mp hp)
      hlookup).symm
  | none =>
    -- A batch would have found the report of a worker who is not there.
    refine (Results.get?_recordEach_of_notMem fun p hp report hreport heq => ?_).symm
    have hp := hschedule.mem_iff.mpr hp
    obtain ⟨worker, _, hsome, -⟩ := h.reported p hp
    rw [← howns p hp report hreport, heq, hworker] at hsome
    cases hsome

end Crew.Ran

namespace Config

variable {config : Config} {procedure : Procedure} {schedule : List Pending} {session : Session}

/-- A batch that is joined is a crew that has finished, whose workers had all their turns
in a row, one after another. -/
theorem exists_turns_finish (htidy : procedure.Tidy) (hdrafts : session.store.drafts = [])
    (hschedule : schedule.Perm (config.dispatch procedure.backend session).2.1.pending) :
    ∃ turns entries, ((config.crew procedure session).take turns).Finished ∧
      ((config.crew procedure session).take turns).results =
        (config.finish procedure.backend schedule session).1.results ∧
      (config.finish procedure.backend schedule session).2 =
        ((config.crew procedure session).take turns).session.noteAll entries := by
  have hsubmitted := Batch.submitted_submit config.order (Batch.new procedure.backend) session
  obtain ⟨fresh, hpending, -, -, -, hdistinct⟩ := hsubmitted.pending
  have hbackend : (config.dispatch procedure.backend session).2.1.backend = procedure.backend :=
    hsubmitted.backend
  have hkinds := nodup_kinds_pending config procedure.backend session
  have htickets : (schedule.map Pending.ticket).Nodup := by
    rw [(hschedule.map Pending.ticket).nodup_iff, Config.dispatch, hpending]
    exact hdistinct
  obtain ⟨_, hentered⟩ := session_crew config procedure session
  have hstart : ∀ p ∈ schedule, (config.crew procedure session).workers p.unit.kind =
      some (.start procedure (config.crew procedure session).session.elapsed p) := by
    intro p hp
    rw [hentered]
    exact congrArg (Option.map _) (pendingFor_of_mem (hschedule.mem_iff.mp hp))
  have hnodrafts : (config.crew procedure session).session.store.drafts = [] := by
    rw [hentered]
    exact hdrafts
  have hall : ∀ kind, (∀ p ∈ schedule, p.unit.kind ≠ kind) →
      (config.crew procedure session).workers kind = none := by
    intro kind hkind
    refine Option.map_eq_none_iff.mpr (Option.eq_none_iff_forall_ne_some.mpr fun p hp => ?_)
    obtain ⟨hp, heq⟩ := mem_of_pendingFor hp
    exact hkind p (hschedule.mem_iff.mpr hp) heq
  have hstatus : ∀ p ∈ schedule, p.unit.status = .pending := fun p hp =>
    status_of_mem_units (mem_pending_dispatch (hschedule.mem_iff.mp hp)).1
  have hnodup := (hschedule.map fun p => p.unit.kind).nodup_iff.mpr hkinds
  obtain ⟨turns, hran⟩ := Crew.exists_turns_workAll htidy hstart hnodup htickets hnodrafts
  have hjoined := Batch.results_joinIn schedule (config.dispatch procedure.backend session).2.1
    (config.crew procedure session).session
  obtain ⟨entries, hentries⟩ := Batch.session_joinIn hschedule (config.crew procedure session).session
  rw [hbackend] at hjoined hentries
  refine ⟨turns, entries, hran.finished hall, ?_, hentries.trans (hran.session ▸ rfl)⟩
  exact (hran.results hall hstatus htickets hschedule hkinds).trans hjoined.symm

/-- The documents of a configuration, compiled one after another. -/
theorem exists_turns_document (page : PageConfig) (hdrafts : session.store.drafts = [])
    (hschedule : schedule.Perm (config.dispatch (.document page) session).2.1.pending) :
    ∃ turns entries, ((config.crew (.document page) session).take turns).Finished ∧
      ((config.crew (.document page) session).take turns).results =
        (config.finish (.document page) schedule session).1.results ∧
      (config.finish (.document page) schedule session).2 =
        ((config.crew (.document page) session).take turns).session.noteAll entries := by
  rw [← Procedure.backend_document page] at hschedule ⊢
  exact exists_turns_finish (Procedure.tidy_document page) hdrafts hschedule

end Config

end Vitae
