import Mathlib.Data.List.Nodup
import Vitae.Program.Config
import Vitae.Proofs.Compile.Reports

/-!
# One Report for Each Document

A batch to which the documents of a configuration were submitted and that was joined
holds one report on each of them, whatever the backend does and in whatever order the
workers run. A source that cannot be read is reported when it is submitted, and its
backend is never called; it does not keep the other document from being compiled.

Submitting only sorts the units: what is on record afterwards are the rejected ones, and
what is under way are the others, each with a ticket of its own (`submitted_submitAll`).
Joining adds a report on each of those (`accounts_join`).

## Main definitions

* `WorkUnit.Resolves`: A unit whose source can be read.
* `Batch.Submitted`: What submitting units does to a batch.
* `Config.dispatch`, `Config.finish`: A batch after its units were submitted, and after it
  was joined.
* `Accounts`: What the reports tell.
* `Fate`: What became of a unit.

## Theorems

* `Batch.submitted_submitAll`: Submitting sorts the units.
* `Config.mem_units`, `Config.nodup_units`: The units of a configuration.
* `lookup_pending`, `exists_fate`: Every unit has its report.
* `accounts_join`: There is one report on each document, and it tells what became of it.
-/

namespace Vitae

/-! ### Submitting -/

namespace WorkUnit

/-- A unit whose source can be read. -/
def Resolves (u : WorkUnit) (store : Store) : Prop :=
  u.resolve store = .ok ()

instance (u : WorkUnit) (store : Store) : Decidable (u.Resolves store) :=
  match h : u.resolve store with
  | .ok () => isTrue h
  | .error _ => isFalse fun hok => by rw [Resolves, h] at hok; cases hok

/-- The report on a unit whose source cannot be read. -/
def rejection (u : WorkUnit) (error : ConfigError) : Report :=
  (u.advance .failed).2.report none (some (.config error)) 0

/-- The report on a unit that is rejected as it is submitted, if it is. -/
def rejectionIn (store : Store) (u : WorkUnit) : Option Report :=
  match u.resolve store with
  | .ok () => none
  | .error error => some (u.rejection error)

theorem rejection_eq (u : WorkUnit) (h : u.status = .pending) (error : ConfigError) :
    u.rejection error = ⟨u.kind, u.source, .failed, none, some (.config error), 0⟩ := by
  unfold rejection advance
  rw [h]
  rfl

theorem kind_rejection (u : WorkUnit) (error : ConfigError) : (u.rejection error).kind = u.kind := by
  unfold rejection advance
  split_ifs <;> rfl

theorem kind_of_rejectionIn {u : WorkUnit} {store : Store} {report : Report}
    (h : u.rejectionIn store = some report) : report.kind = u.kind := by
  unfold rejectionIn at h
  split at h
  · cases h
  · cases h
    exact u.kind_rejection _

theorem source_rejection (u : WorkUnit) (error : ConfigError) :
    (u.rejection error).source = u.source := by
  unfold rejection advance
  split_ifs <;> rfl

end WorkUnit

namespace Batch

variable {order : Order} {batch : Batch} {session : Session}

/-- What submitting units does to a batch, of whose order some units were handed to
workers already. -/
structure Submitted (order : Order) (units : List WorkUnit) (handed : Nat) (batch : Batch)
    (session : Session) (result : Nat × Batch × Session) : Prop where
  count : result.1 = handed + (units.filter (·.Resolves session.store)).length
  backend : result.2.1.backend = batch.backend
  results : result.2.1.results = batch.results.recordEach (WorkUnit.rejectionIn session.store) units
  nextTicket : batch.nextTicket ≤ result.2.1.nextTicket
  /-- The units under way come in order, with new tickets. -/
  pending : ∃ fresh : List Pending, result.2.1.pending = batch.pending ++ fresh ∧
    fresh.map Pending.unit = units.filter (·.Resolves session.store) ∧
    (∀ p ∈ fresh, p.debug = order.debug ∧ p.interrupt = order.interrupt) ∧
    (∀ p ∈ fresh, batch.nextTicket ≤ p.ticket ∧ p.ticket < result.2.1.nextTicket) ∧
    (fresh.map Pending.ticket).Nodup
  session : ∃ entries, result.2.2 = session.noteAll entries

/-- Submitting a unit leaves notes in the log, and a report or a unit under way. -/
theorem submitOne_eq (order : Order) (handed : Nat) (u : WorkUnit) (batch : Batch)
    (session : Session) :
    ∃ entries, submitOne order handed u batch session =
      match u.resolve session.store with
      | .error error =>
        (false, { batch with results := batch.results.record (u.rejection error) },
          session.noteAll entries)
      | .ok () =>
        (true,
          { batch with
            pending := batch.pending ++
              [⟨batch.nextTicket, u, order.debug, order.interrupt, handed / order.workers⟩]
            nextTicket := batch.nextTicket + 1 },
          session.noteAll entries) := by
  have hnoted : ∀ entry, ∃ notes,
      (if order.debug then session.note entry else session) = session.noteAll notes := by
    intro entry
    split_ifs
    · exact ⟨[entry], rfl⟩
    · exact ⟨[], (Session.noteAll_nil session).symm⟩
  unfold submitOne
  simp only
  generalize hentry : entry .debug "unit submitted" _ = submitted
  obtain ⟨notes, hnotes⟩ := hnoted submitted
  rw [hnotes]
  have hstore : (session.noteAll notes).store = session.store := rfl
  rw [hstore]
  cases u.resolve session.store with
  | ok _ => exact ⟨notes, rfl⟩
  | error error => exact ⟨notes ++ [u.failureEntry (.config error)], by
      rw [← Session.noteAll_noteAll]
      rfl⟩

theorem Submitted.nil (order : Order) (handed : Nat) (batch : Batch) (session : Session) :
    Submitted order [] handed batch session (handed, batch, session) where
  count := rfl
  backend := rfl
  results := rfl
  nextTicket := Nat.le_refl _
  pending := ⟨[], (List.append_nil _).symm, rfl, fun _ h => absurd h List.not_mem_nil,
    fun _ h => absurd h List.not_mem_nil, List.nodup_nil⟩
  session := ⟨[], (Session.noteAll_nil session).symm⟩

theorem filter_cons_rejected {u : WorkUnit} {units : List WorkUnit} {store : Store}
    {error : ConfigError} (h : u.resolve store = .error error) :
    (u :: units).filter (·.Resolves store) = units.filter (·.Resolves store) := by
  refine List.filter_cons_of_neg fun hresolves => ?_
  rw [decide_eq_true_eq, WorkUnit.Resolves, h] at hresolves
  cases hresolves

theorem filter_cons_resolved {u : WorkUnit} {units : List WorkUnit} {store : Store}
    (h : u.Resolves store) :
    (u :: units).filter (·.Resolves store) = u :: units.filter (·.Resolves store) :=
  List.filter_cons_of_pos (decide_eq_true h)

/-- A unit whose source cannot be read comes before others. -/
theorem Submitted.cons_rejected {units : List WorkUnit} {handed : Nat} {u : WorkUnit}
    {error : ConfigError} {entries : List LogEntry} {result : Nat × Batch × Session}
    (hresolve : u.resolve session.store = .error error)
    (h : Submitted order units handed { batch with results := batch.results.record (u.rejection error) }
      (session.noteAll entries) result) :
    Submitted order (u :: units) handed batch session result where
  count := by
    rw [filter_cons_rejected hresolve]
    exact h.count
  backend := h.backend
  results := by
    rw [Results.recordEach_cons, WorkUnit.rejectionIn, hresolve]
    exact h.results
  nextTicket := h.nextTicket
  pending := by
    rw [filter_cons_rejected hresolve]
    exact h.pending
  session := by
    obtain ⟨more, hmore⟩ := h.session
    exact ⟨entries ++ more, hmore.trans (Session.noteAll_noteAll session entries more)⟩

/-- A unit whose source can be read comes before others. -/
theorem Submitted.cons_resolved {units : List WorkUnit} {handed : Nat} {u : WorkUnit} {turn : Nat}
    {entries : List LogEntry} {result : Nat × Batch × Session}
    (hresolve : u.Resolves session.store)
    (h : Submitted order units (handed + 1)
      { batch with
        pending := batch.pending ++ [⟨batch.nextTicket, u, order.debug, order.interrupt, turn⟩]
        nextTicket := batch.nextTicket + 1 }
      (session.noteAll entries) result) :
    Submitted order (u :: units) handed batch session result where
  count := by
    rw [filter_cons_resolved hresolve, List.length_cons]
    have hcount := h.count
    change result.1 = handed + 1 + (units.filter (·.Resolves session.store)).length at hcount
    omega
  backend := h.backend
  results := by
    rw [Results.recordEach_cons, WorkUnit.rejectionIn, hresolve]
    exact h.results
  nextTicket := Nat.le_of_succ_le h.nextTicket
  pending := by
    obtain ⟨fresh, hpending, hunits, hflags, htickets, hdistinct⟩ := h.pending
    refine ⟨⟨batch.nextTicket, u, order.debug, order.interrupt, turn⟩ :: fresh, ?_, ?_, ?_, ?_, ?_⟩
    · rw [hpending, List.append_assoc, List.singleton_append]
    · rw [List.map_cons, hunits, filter_cons_resolved hresolve]
      rfl
    · exact List.forall_mem_cons.mpr ⟨⟨rfl, rfl⟩, hflags⟩
    · exact List.forall_mem_cons.mpr ⟨⟨Nat.le_refl _, h.nextTicket⟩,
        fun p hp => ⟨Nat.le_of_succ_le (htickets p hp).1, (htickets p hp).2⟩⟩
    · -- The tickets that follow are greater.
      refine List.nodup_cons.mpr ⟨fun hmem => ?_, hdistinct⟩
      obtain ⟨p, hp, heq⟩ := List.mem_map.mp hmem
      have hle := (htickets p hp).1
      rw [heq] at hle
      exact Nat.not_succ_le_self batch.nextTicket hle
  session := by
    obtain ⟨more, hmore⟩ := h.session
    exact ⟨entries ++ more, hmore.trans (Session.noteAll_noteAll session entries more)⟩

/-- Submitting sorts the units into those that are rejected and those under way. -/
theorem submitted_submitAll (order : Order) (units : List WorkUnit) (handed : Nat) (batch : Batch)
    (session : Session) :
    Submitted order units handed batch session (submitAll order handed units batch session) := by
  induction units generalizing handed batch session with
  | nil => exact .nil order handed batch session
  | cons u rest ih =>
    obtain ⟨entries, hone⟩ := submitOne_eq order handed u batch session
    rw [submitAll, hone]
    cases hresolve : u.resolve session.store with
    | error error => exact .cons_rejected hresolve (ih _ _ _)
    | ok _ => exact .cons_resolved hresolve (ih _ _ _)

/-- Submitting an order submits its units and logs what came of it. -/
theorem submitted_submit (order : Order) (batch : Batch) (session : Session) :
    Submitted order order.units 0 batch session (batch.submit order session) := by
  unfold submit
  split_ifs with hempty
  · rw [List.isEmpty_iff.mp hempty]
    have hnil := Submitted.nil order 0 batch session
    exact ⟨hnil.count, hnil.backend, hnil.results, hnil.nextTicket, hnil.pending, ⟨[_], rfl⟩⟩
  · have hall := submitted_submitAll order order.units 0 batch session
    obtain ⟨entries, hentries⟩ := hall.session
    refine ⟨hall.count, hall.backend, hall.results, hall.nextTicket, hall.pending, ?_⟩
    simp only [hentries]
    exact ⟨_, Session.noteAll_noteAll session entries [_]⟩

/-- The backend of a batch plays no part when units are submitted. -/
theorem submitAll_backend (order : Order) (units : List WorkUnit) (handed : Nat) (batch : Batch)
    (session : Session) (other : Backend) :
    submitAll order handed units { batch with backend := other } session =
      ((submitAll order handed units batch session).1,
        { (submitAll order handed units batch session).2.1 with backend := other },
        (submitAll order handed units batch session).2.2) := by
  induction units generalizing handed batch session with
  | nil => rfl
  | cons u rest ih =>
    have hone : submitOne order handed u { batch with backend := other } session =
        ((submitOne order handed u batch session).1,
          { (submitOne order handed u batch session).2.1 with backend := other },
          (submitOne order handed u batch session).2.2) := by
      unfold submitOne
      simp only
      split <;> rfl
    rw [submitAll, hone]
    exact ih _ _ _

theorem submit_backend (order : Order) (batch : Batch) (session : Session) (other : Backend) :
    submit order { batch with backend := other } session =
      ((submit order batch session).1, { (submit order batch session).2.1 with backend := other },
        (submit order batch session).2.2) := by
  unfold submit
  rw [submitAll_backend]
  split_ifs <;> rfl

/-! ### Joining -/

theorem results_joinIn (schedule : List Pending) (batch : Batch) (session : Session) :
    (batch.joinIn schedule session).1.results =
      batch.results.recordEach
        (fun p => (workAll batch.backend schedule session).1.lookup p.ticket) batch.pending := by
  unfold joinIn
  split_ifs with hempty
  · rw [List.isEmpty_iff.mp hempty]
    rfl
  · exact recordAll_eq _ _ _

/-- Joining notes its end in the log. -/
theorem session_joinIn {schedule : List Pending} {batch : Batch}
    (h : schedule.Perm batch.pending) (session : Session) :
    ∃ entries, (batch.joinIn schedule session).2 =
      (workAll batch.backend schedule session).2.noteAll entries := by
  unfold joinIn
  split_ifs with hempty
  · rw [List.isEmpty_iff.mp hempty] at h
    rw [h.eq_nil]
    exact ⟨[], (Session.noteAll_nil session).symm⟩
  · exact ⟨[_], rfl⟩

theorem pending_joinIn (schedule : List Pending) (batch : Batch) (session : Session) :
    (batch.joinIn schedule session).1.pending = [] := by
  unfold joinIn
  split_ifs with hempty
  · exact List.isEmpty_iff.mp hempty
  · rfl

theorem backend_joinIn (schedule : List Pending) (batch : Batch) (session : Session) :
    (batch.joinIn schedule session).1.backend = batch.backend := by
  unfold joinIn
  split_ifs <;> rfl

/-- A batch that was joined is left alone. -/
theorem joinIn_joinIn (schedule again : List Pending) (batch : Batch) (session later : Session) :
    (batch.joinIn schedule session).1.joinIn again later =
      ((batch.joinIn schedule session).1, later) := by
  have hempty : (batch.joinIn schedule session).1.pending.isEmpty = true := by
    rw [pending_joinIn]
    rfl
  rw [joinIn.eq_1 again, if_pos hempty]

end Batch

/-! ### The documents of a configuration -/

theorem Kind.mem_all (kind : Kind) : kind ∈ Kind.all := by
  cases kind <;> decide

namespace Config

variable {config : Config}

theorem mem_units {u : WorkUnit} :
    u ∈ config.units ↔ ∃ source, config.source? u.kind = some source ∧
      u = WorkUnit.new u.kind source (config.outputPath u.kind) config.options := by
  unfold units sources
  simp only [List.mem_map, List.mem_filterMap, Prod.exists, Option.map_eq_some_iff, Prod.mk.injEq]
  constructor
  · rintro ⟨_, _, ⟨kind, -, source, hsource, rfl, rfl⟩, rfl⟩
    exact ⟨source, hsource, rfl⟩
  · rintro ⟨source, hsource, heq⟩
    exact ⟨u.kind, source, ⟨u.kind, u.kind.mem_all, source, hsource, rfl, rfl⟩, heq.symm⟩

theorem eq_of_mem_units {u v : WorkUnit} (hu : u ∈ config.units) (hv : v ∈ config.units)
    (h : u.kind = v.kind) : u = v := by
  obtain ⟨source, hsource, hu⟩ := mem_units.mp hu
  obtain ⟨_, hsame, hv⟩ := mem_units.mp hv
  rw [h] at hsource hu
  cases hsource.symm.trans hsame
  rw [hu, ← hv]

theorem status_of_mem_units {u : WorkUnit} (h : u ∈ config.units) : u.status = .pending := by
  obtain ⟨_, -, heq⟩ := mem_units.mp h
  rw [heq]
  rfl

/-- A configuration has one unit for each kind of document at most. -/
theorem nodup_units (config : Config) : (config.units.map WorkUnit.kind).Nodup := by
  have hkinds : config.units.map WorkUnit.kind =
      Kind.all.filterMap fun kind => (config.source? kind).map fun _ => kind := by
    unfold units sources
    rw [List.map_map, List.map_filterMap]
    refine congrArg (fun f => List.filterMap f Kind.all) (funext fun kind => ?_)
    cases config.source? kind <;> rfl
  rw [hkinds]
  refine List.Nodup.filterMap ?_ (by decide)
  intro kind other same hkind hother
  obtain ⟨_, -, rfl⟩ := Option.map_eq_some_iff.mp hkind
  obtain ⟨_, -, rfl⟩ := Option.map_eq_some_iff.mp hother
  rfl

/-- How many units were handed to workers, and the batch to which the documents of a
configuration have been submitted. -/
def dispatch (config : Config) (backend : Backend) (session : Session) : Nat × Batch × Session :=
  (Batch.new backend).submit config.order session

/-- The batch after it has been joined, with its units run in the given order. -/
def finish (config : Config) (backend : Backend) (schedule : List Pending) (session : Session) :
    Batch × Session :=
  (config.dispatch backend session).2.1.joinIn schedule (config.dispatch backend session).2.2

end Config

section Accounts

variable {config : Config} {backend : Backend} {schedule : List Pending} {session : Session}

/-- What the reports tell once everything that was asked for has ended. -/
structure Accounts (config : Config) (backend : Backend) (schedule : List Pending)
    (session : Session) : Prop where
  /-- As many units are handed to workers as there are sources that can be read. -/
  count : (config.dispatch backend session).1 =
    (config.units.filter (·.Resolves session.store)).length
  /-- There is one report for each source, and no other. -/
  sources : ∀ kind, ((config.finish backend schedule session).1.results.get? kind).map
    (fun report => (report.kind, report.source)) = (config.source? kind).map (kind, ·)
  sound : ∀ kind report,
    (config.finish backend schedule session).1.results.get? kind = some report → report.Sound
  /-- A source that cannot be read is a failure, and no backend is called for it. -/
  rejected : ∀ u ∈ config.units, ∀ error, u.resolve session.store = .error error →
    ∃ report, (config.finish backend schedule session).1.results.get? u.kind = some report ∧
      report.status = .failed ∧ report.error = some (.config error) ∧
      report.error.map UnitError.code = some "CONFIGURATION_ERROR"
  uncalled : ∀ other : Backend, other.name = backend.name →
    (∀ u ∈ config.units, u.Resolves session.store → other.render u.job = backend.render u.job) →
    (config.finish other schedule session).1.results =
        (config.finish backend schedule session).1.results ∧
      (config.finish other schedule session).2 = (config.finish backend schedule session).2
  /-- Any other source gets a report on how the call of the backend for it has ended. -/
  ran : ∀ u ∈ config.units, u.Resolves session.store → ∃ before pending after report,
    schedule = before ++ pending :: after ∧ pending.unit = u ∧
      (config.finish backend schedule session).1.results.get? u.kind = some report ∧
      report.Reflects (Batch.callFor backend pending
        (Batch.workAll backend before (config.dispatch backend session).2.2).2).1
  verdict : let results := (config.finish backend schedule session).1.results
    (results.Has .failed → results.exitCode = 1) ∧
      (¬results.Has .failed → results.Has .interrupted → results.exitCode = 130) ∧
      (¬results.Has .failed → ¬results.Has .interrupted → results.exitCode = 0)
  /-- Joining once more changes nothing and logs nothing. -/
  again : ∀ schedule' later, (config.finish backend schedule session).1.joinIn schedule' later =
    ((config.finish backend schedule session).1, later)

/-- What became of a unit, and what the report on it tells. -/
inductive Fate (config : Config) (backend : Backend) (schedule : List Pending) (session : Session)
    (u : WorkUnit) (report : Report) : Prop
  | rejected (error : ConfigError) (hresolve : u.resolve session.store = .error error)
    (hreport : report = u.rejection error)
  | ran (before : List Pending) (pending : Pending) (after : List Pending)
    (hresolves : u.Resolves session.store) (hschedule : schedule = before ++ pending :: after)
    (hunit : pending.unit = u) (hkind : report.kind = u.kind) (hsource : report.source = u.source)
    (hreflects : report.Reflects (Batch.callFor backend pending
      (Batch.workAll backend before (config.dispatch backend session).2.2).2).1)

/-- The backend of a batch plays no part when the documents are submitted. -/
theorem dispatch_backend (config : Config) (backend other : Backend) (session : Session) :
    config.dispatch other session =
      ((config.dispatch backend session).1,
        { (config.dispatch backend session).2.1 with backend := other },
        (config.dispatch backend session).2.2) :=
  Batch.submit_backend config.order (Batch.new backend) session other

/-- The units under way are those of the configuration whose sources can be read. -/
theorem mem_pending_dispatch {p : Pending}
    (h : p ∈ (config.dispatch backend session).2.1.pending) :
    p.unit ∈ config.units ∧ p.unit.Resolves session.store ∧ p.interrupt = config.interrupt := by
  obtain ⟨fresh, hpending, hunits, hflags, -⟩ :=
    (Batch.submitted_submit config.order (Batch.new backend) session).pending
  have hmem : p ∈ fresh := by
    rw [Config.dispatch, hpending] at h
    exact h
  have hunit := List.mem_map_of_mem (f := Pending.unit) hmem
  rw [hunits, List.mem_filter, decide_eq_true_eq] at hunit
  exact ⟨hunit.1, hunit.2, (hflags p hmem).2⟩

/-- The units under way are of different kinds. -/
theorem nodup_kinds_pending (config : Config) (backend : Backend) (session : Session) :
    ((config.dispatch backend session).2.1.pending.map fun p => p.unit.kind).Nodup := by
  obtain ⟨fresh, hpending, hunits, -⟩ :=
    (Batch.submitted_submit config.order (Batch.new backend) session).pending
  have hpending : (config.dispatch backend session).2.1.pending = fresh := hpending
  rw [hpending]
  change (fresh.map (WorkUnit.kind ∘ Pending.unit)).Nodup
  rw [← List.map_map, hunits]
  exact (List.filter_sublist.map WorkUnit.kind).nodup config.nodup_units

/-- A worker reports on each unit under way, under the ticket of the unit. -/
theorem lookup_pending (hcalm : config.interrupt = true → session.Calm ∧ backend.KeepsCalm)
    (hschedule : schedule.Perm (config.dispatch backend session).2.1.pending) {p : Pending}
    (h : p ∈ (config.dispatch backend session).2.1.pending) :
    ∃ report, (Batch.workAll backend schedule (config.dispatch backend session).2.2).1.lookup p.ticket =
        some report ∧ Fate config backend schedule session p.unit report := by
  have hsubmitted := Batch.submitted_submit config.order (Batch.new backend) session
  obtain ⟨fresh, hpending, -, -, -, hdistinct⟩ := hsubmitted.pending
  obtain ⟨entries, hentries⟩ := hsubmitted.session
  obtain ⟨hunit, hresolves, hinterrupt⟩ := mem_pending_dispatch h
  obtain ⟨before, after, rfl⟩ := List.append_of_mem (hschedule.mem_iff.mpr h)
  have htickets : ∀ q ∈ before, q.ticket ≠ p.ticket := by
    have hnodup : ((before ++ p :: after).map Pending.ticket).Nodup := by
      refine (hschedule.map Pending.ticket).nodup_iff.mpr ?_
      rw [Config.dispatch, hpending]
      exact hdistinct
    rw [List.map_append, List.map_cons, List.nodup_append] at hnodup
    exact fun q hq => hnodup.2.2 _ (List.mem_map_of_mem hq) _ List.mem_cons_self
  have hstatus : ∀ q ∈ before, q.unit.status = .pending := fun q hq =>
    Config.status_of_mem_units
      (mem_pending_dispatch (hschedule.mem_iff.mp (List.mem_append_left _ hq))).1
  -- No one was asked to stop before, and no one is asked now.
  have hanswer : (Batch.workAll backend before (config.dispatch backend session).2.2).2.answer
      (Batch.contextOf p) 0 = false := by
    refine Session.answer_eq_false fun harmed => ?_
    obtain ⟨hsession, hkeeps⟩ := hcalm (hinterrupt ▸ harmed)
    refine Batch.calm_workAll hkeeps hstatus ?_
    rw [Config.dispatch, hentries]
    exact Session.calm_noteAll hsession
  obtain ⟨report, _, hwork, hkind, hsource, hreflects⟩ :=
    Batch.work_eq backend (Config.status_of_mem_units hunit) hanswer
  refine ⟨report, ?_, .ran before p after hresolves rfl rfl hkind hsource hreflects⟩
  rw [Batch.lookup_workAll htickets, hwork]

/-- The results after joining: first the rejected units, then those that were under way. -/
theorem results_finish (config : Config) (backend : Backend) (schedule : List Pending)
    (session : Session) :
    (config.finish backend schedule session).1.results =
      (Results.empty.recordEach (WorkUnit.rejectionIn session.store) config.units).recordEach
        (fun p => (Batch.workAll backend schedule (config.dispatch backend session).2.2).1.lookup
          p.ticket) (config.dispatch backend session).2.1.pending := by
  have hsubmitted := Batch.submitted_submit config.order (Batch.new backend) session
  have hbackend : (config.dispatch backend session).2.1.backend = backend := hsubmitted.backend
  have hresults : (config.dispatch backend session).2.1.results =
      Results.empty.recordEach (WorkUnit.rejectionIn session.store) config.units := hsubmitted.results
  rw [Config.finish, Batch.results_joinIn, hbackend, hresults]

/-- Every unit has its report. -/
theorem exists_fate (hcalm : config.interrupt = true → session.Calm ∧ backend.KeepsCalm)
    (hschedule : schedule.Perm (config.dispatch backend session).2.1.pending) {u : WorkUnit}
    (hu : u ∈ config.units) :
    ∃ report, (config.finish backend schedule session).1.results.get? u.kind = some report ∧
      Fate config backend schedule session u report := by
  obtain ⟨fresh, hpending, hunits, -⟩ :=
    (Batch.submitted_submit config.order (Batch.new backend) session).pending
  have hpending : (config.dispatch backend session).2.1.pending = fresh := hpending
  have hkinds : ∀ p ∈ (config.dispatch backend session).2.1.pending, ∀ report,
      (Batch.workAll backend schedule (config.dispatch backend session).2.2).1.lookup p.ticket =
        some report → report.kind = p.unit.kind := by
    intro p hp report hreport
    obtain ⟨_, hfound, hfate⟩ := lookup_pending hcalm hschedule hp
    cases hreport.symm.trans hfound
    cases hfate with
    | rejected error _ heq => rw [heq, WorkUnit.kind_rejection]
    | ran _ _ _ _ _ _ hkind _ _ => exact hkind
  rw [results_finish]
  cases hresolve : u.resolve session.store with
  | error error =>
    refine ⟨u.rejection error, ?_, .rejected error hresolve rfl⟩
    rw [Results.get?_recordEach_of_notMem]
    · refine Results.get?_recordEach_of_mem WorkUnit.kind
        (fun _ _ _ => WorkUnit.kind_of_rejectionIn) config.nodup_units hu ?_
      rw [WorkUnit.rejectionIn, hresolve]
    · -- The units under way can be read, so they are others, of other kinds.
      intro p hp report hreport hkind
      obtain ⟨hmem, hresolves, -⟩ := mem_pending_dispatch hp
      rw [hkinds p hp report hreport] at hkind
      rw [Config.eq_of_mem_units hmem hu hkind, WorkUnit.Resolves, hresolve] at hresolves
      cases hresolves
  | ok _ =>
    have hmem : u ∈ fresh.map Pending.unit := by
      rw [hunits]
      exact List.mem_filter.mpr ⟨hu, decide_eq_true hresolve⟩
    obtain ⟨p, hp, rfl⟩ := List.mem_map.mp hmem
    obtain ⟨report, hreport, hfate⟩ := lookup_pending hcalm hschedule (hpending ▸ hp)
    refine ⟨report, ?_, hfate⟩
    exact Results.get?_recordEach_of_mem (fun p : Pending => p.unit.kind) hkinds
      (nodup_kinds_pending config backend session) (hpending ▸ hp) hreport

/-- There is no report on a document that was not asked for. -/
theorem get?_of_source?_eq_none (hcalm : config.interrupt = true → session.Calm ∧ backend.KeepsCalm)
    (hschedule : schedule.Perm (config.dispatch backend session).2.1.pending) {kind : Kind}
    (h : config.source? kind = none) :
    (config.finish backend schedule session).1.results.get? kind = none := by
  have hother : ∀ u ∈ config.units, u.kind ≠ kind := by
    rintro u hu rfl
    obtain ⟨_, hsource, -⟩ := Config.mem_units.mp hu
    rw [h] at hsource
    cases hsource
  rw [results_finish, Results.get?_recordEach_of_notMem, Results.get?_recordEach_of_notMem]
  · cases kind <;> rfl
  · intro u hu report hreport
    rw [WorkUnit.kind_of_rejectionIn hreport]
    exact hother u hu
  · intro p hp report hreport
    obtain ⟨_, hfound, hfate⟩ := lookup_pending hcalm hschedule hp
    cases hreport.symm.trans hfound
    have hmem := (mem_pending_dispatch hp).1
    cases hfate with
    | rejected error _ heq =>
      rw [heq, WorkUnit.kind_rejection]
      exact hother _ hmem
    | ran _ _ _ _ _ _ hkind _ _ =>
      rw [hkind]
      exact hother _ hmem

theorem Fate.kind_source {u : WorkUnit} {report : Report}
    (h : Fate config backend schedule session u report) :
    report.kind = u.kind ∧ report.source = u.source := by
  cases h with
  | rejected error _ heq =>
    rw [heq]
    exact ⟨u.kind_rejection error, u.source_rejection error⟩
  | ran _ _ _ _ _ _ hkind hsource _ => exact ⟨hkind, hsource⟩

theorem Fate.sound {u : WorkUnit} {report : Report} (hu : u ∈ config.units)
    (h : Fate config backend schedule session u report) : report.Sound := by
  cases h with
  | rejected error _ heq =>
    rw [heq, u.rejection_eq (Config.status_of_mem_units hu)]
    exact ⟨rfl, iff_of_false Bool.false_ne_true nofun, iff_of_true rfl rfl⟩
  | ran _ _ _ _ _ _ _ _ hreflects => exact hreflects.sound

/-- Backends that do the same for the units under way lead to the same reports. -/
theorem finish_congr (hschedule : schedule.Perm (config.dispatch backend session).2.1.pending)
    {other : Backend} (hname : other.name = backend.name)
    (hrender : ∀ u ∈ config.units, u.Resolves session.store →
      other.render u.job = backend.render u.job) :
    config.finish other schedule session =
      ({ (config.finish backend schedule session).1 with backend := other },
        (config.finish backend schedule session).2) := by
  have hbackend : (config.dispatch backend session).2.1.backend = backend :=
    (Batch.submitted_submit config.order (Batch.new backend) session).backend
  have hwork : Batch.workAll other schedule (config.dispatch backend session).2.2 =
      Batch.workAll (config.dispatch backend session).2.1.backend schedule
        (config.dispatch backend session).2.2 := by
    rw [hbackend]
    refine Batch.workAll_congr hname (fun p hp => ?_) _
    obtain ⟨hmem, hresolves, -⟩ := mem_pending_dispatch (hschedule.mem_iff.mp hp)
    exact hrender p.unit hmem hresolves
  unfold Config.finish
  rw [dispatch_backend config backend other]
  unfold Batch.joinIn
  simp only [hwork]
  split_ifs <;> rfl

/-- There is one report on each document that was asked for, and it tells what became of
it, as long as no one is asked to stop who would heed it. -/
theorem accounts_join (config : Config) (backend : Backend) (schedule : List Pending)
    (session : Session) (hcalm : config.interrupt = true → session.Calm ∧ backend.KeepsCalm)
    (hschedule : schedule.Perm (config.dispatch backend session).2.1.pending) :
    Accounts config backend schedule session where
  count := by
    have hcount := (Batch.submitted_submit config.order (Batch.new backend) session).count
    rw [Nat.zero_add] at hcount
    exact hcount
  sources := by
    intro kind
    cases hsource : config.source? kind with
    | none =>
      rw [get?_of_source?_eq_none hcalm hschedule hsource]
      rfl
    | some source =>
      obtain ⟨report, hreport, hfate⟩ := exists_fate hcalm hschedule
        (Config.mem_units.mpr ⟨source, hsource, rfl⟩ :
          WorkUnit.new kind source (config.outputPath kind) config.options ∈ config.units)
      obtain ⟨hkind, hsame⟩ := hfate.kind_source
      change (Results.get? _ kind) = _ at hreport
      rw [hreport]
      exact congrArg some (Prod.ext hkind hsame)
  sound := by
    intro kind report hreport
    cases hsource : config.source? kind with
    | none =>
      rw [get?_of_source?_eq_none hcalm hschedule hsource] at hreport
      cases hreport
    | some source =>
      have hu : WorkUnit.new kind source (config.outputPath kind) config.options ∈ config.units :=
        Config.mem_units.mpr ⟨source, hsource, rfl⟩
      obtain ⟨_, hfound, hfate⟩ := exists_fate hcalm hschedule hu
      cases hreport.symm.trans hfound
      exact hfate.sound hu
  rejected := by
    intro u hu error hresolve
    obtain ⟨report, hreport, hfate⟩ := exists_fate hcalm hschedule hu
    cases hfate with
    | rejected other hother heq =>
      cases hother.symm.trans hresolve
      rw [u.rejection_eq (Config.status_of_mem_units hu)] at heq
      subst heq
      exact ⟨_, hreport, rfl, rfl, rfl⟩
    | ran _ _ _ hresolves _ _ _ _ _ =>
      rw [WorkUnit.Resolves, hresolve] at hresolves
      cases hresolves
  uncalled := by
    intro other hname hrender
    rw [finish_congr hschedule hname hrender]
    exact ⟨rfl, rfl⟩
  ran := by
    intro u hu hresolves
    obtain ⟨report, hreport, hfate⟩ := exists_fate hcalm hschedule hu
    cases hfate with
    | rejected error hresolve _ =>
      rw [WorkUnit.Resolves, hresolve] at hresolves
      cases hresolves
    | ran before pending after _ hschedule hunit _ _ hreflects =>
      exact ⟨before, pending, after, report, hschedule, hunit, hreport, hreflects⟩
  verdict := Results.exitCode_eq _
  again := fun _ _ => Batch.joinIn_joinIn _ _ _ _ _

end Accounts

/-- A configuration of two documents, run by one worker that can be interrupted. -/
def sampleConfig : Config where
  cvSource := some (Path.ofText "cv.json")
  letterSource := some (Path.ofText "letter.json")
  options := .standard
  debug := false
  interrupt := true
  update := false
  outputFolder := Path.ofText "out"
  maxWorkers := some 1
  updateUrl := none
  backendFolder := Path.ofText "backend"

/-- A session in which only the first of the two sources is there. -/
def sampleSession : Session :=
  .start ⟨[([], .folder), ([Utf8.encode "cv.json"], .file [])], [], [], fun _ => none⟩

/-- A backend that crashes without a word. -/
def crashingBackend : Backend := ⟨"crashing", fun _ _ session => (.crashed none, session)⟩

/-- One unit crashes and the other never begins, so both have failed. -/
theorem accounts_join_crash :
    (sampleConfig.interrupt = true → sampleSession.Calm ∧ crashingBackend.KeepsCalm) ∧
    (sampleConfig.dispatch crashingBackend sampleSession).2.1.schedule.Perm
      (sampleConfig.dispatch crashingBackend sampleSession).2.1.pending ∧
    (sampleConfig.dispatch crashingBackend sampleSession).1 = 1 ∧
    Accounts sampleConfig crashingBackend
      (sampleConfig.dispatch crashingBackend sampleSession).2.1.schedule sampleSession := by
  have hcalm : sampleConfig.interrupt = true → sampleSession.Calm ∧ crashingBackend.KeepsCalm :=
    fun _ => ⟨⟨rfl, fun _ => rfl⟩, fun _ _ _ h => h⟩
  have hschedule := Batch.schedule_perm (sampleConfig.dispatch crashingBackend sampleSession).2.1
  exact ⟨hcalm, hschedule, rfl,
    accounts_join sampleConfig crashingBackend _ sampleSession hcalm hschedule⟩

end Vitae
