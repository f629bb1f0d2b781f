import Mathlib.Data.List.Induction
import Vitae.Proofs.Compile.Dispatch

/-!
# Rounds of Submissions

A batch can be used again: documents are submitted in rounds, each of which ends as the batch
is joined, and within a round as often as one likes. Of each kind there is one report in the
end, and this module says which.

A batch does not remember what was submitted, so a `History` does it in its place. It goes
through the calls with the batch and keeps, round by round, every submission with its
conclusion. The results can then be told from the rounds alone (`Sound.results`), which is an
invariant of all calls.

A unit that is rejected is reported at once, but one that was handed to a worker only as the
round ends, even if it was submitted earlier. So in each round the handed units have the last
word on their kind, and a rejected unit has it only where none of its kind was handed
(`settles`). The most recent submission is therefore the one that is kept, except if it was
rejected while an earlier one of its kind was under way (`hidden_failure`).

## Main definitions

* `Submission`: What became of a unit as it was submitted.
* `Conclusion`: A submission with the report on it.
* `History`: A batch with everything that was submitted to it.
* `History.Possible`: The histories of sequences of calls.
* `settles`, `kept`: The report of a round on a kind of document, and that of all rounds.
* `History.Sound`: What holds after every call.
* `Kept`: Which reports are kept.

## Theorems

* `Results.get?_recordEach`: Of each kind the last report is on record.
* `History.Sound.dispatch`, `History.Sound.join`: The calls keep a history sound.
* `kept_join`: Which reports are kept after all calls.
* `hidden_failure`: A failure that is hidden behind an earlier submission.
-/

namespace Vitae

/-- Of each kind the last report is on record. -/
theorem Results.get?_recordEach {α : Type} (reportOn : α → Option Report) (xs : List α)
    (results : Results) (kind : Kind) :
    (results.recordEach reportOn xs).get? kind =
      ((xs.filterMap reportOn).filter (fun report => report.kind = kind)).getLast?.or
        (results.get? kind) := by
  induction xs generalizing results with
  | nil => rfl
  | cons x rest ih =>
    rw [recordEach_cons, ih, List.filterMap_cons]
    cases reportOn x with
    | none => rfl
    | some report =>
      simp only [get?_record]
      by_cases hkind : report.kind = kind
      · rw [if_pos hkind, List.filter_cons, if_pos (decide_eq_true hkind), List.getLast?_cons]
        cases ((rest.filterMap reportOn).filter fun report => report.kind = kind).getLast? <;> rfl
      · rw [if_neg hkind, List.filter_cons, if_neg (by simpa using hkind)]

/-! ### Histories -/

/-- What became of a unit as it was submitted. -/
inductive Submission where
  /-- Its source could not be read. -/
  | rejected (unit : WorkUnit) (error : ConfigError)
  /-- It was handed to a worker. -/
  | handed (pending : Pending)

/-- A submission with the report on it. -/
structure Conclusion where
  kind : Kind
  /-- Whether the unit was handed to a worker. -/
  handed : Bool
  report : Report

namespace Submission

def kind : Submission → Kind
  | .rejected unit _ => unit.kind
  | .handed pending => pending.unit.kind

def isHanded : Submission → Bool
  | .rejected _ _ => false
  | .handed _ => true

/-- The unit under way, if a unit was handed to a worker. -/
def pending? : Submission → Option Pending
  | .rejected _ _ => none
  | .handed pending => some pending

/-- The report on a unit that was rejected. -/
def rejection? : Submission → Option Report
  | .rejected unit error => some (unit.rejection error)
  | .handed _ => none

/-- The conclusion of a submission, given the reports of the workers. -/
def conclusion? (reports : List (Nat × Report)) : Submission → Option Conclusion
  | .rejected unit error => some ⟨unit.kind, false, unit.rejection error⟩
  | .handed pending => (reports.lookup pending.ticket).map (⟨pending.unit.kind, true, ·⟩)

end Submission

/-- What becomes of the units of an order as they are submitted. Some units were handed to
workers before; the next one gets the given ticket. -/
def Order.submissions (order : Order) (store : Store) (handed ticket : Nat) :
    List WorkUnit → List Submission
  | [] => []
  | u :: rest =>
    match u.resolve store with
    | .error error => .rejected u error :: submissions order store handed ticket rest
    | .ok () =>
      .handed ⟨ticket, u, order.debug, order.interrupt, handed / order.workers⟩ ::
        submissions order store (handed + 1) (ticket + 1) rest

/-- A batch with everything that was submitted to it. -/
structure History where
  batch : Batch
  session : Session
  /-- The conclusions of the rounds that have ended. -/
  rounds : List (List Conclusion)
  /-- What was submitted since. -/
  submitted : List Submission

namespace History

def start (backend : Backend) (session : Session) : History :=
  ⟨Batch.new backend, session, [], []⟩

/-- Submits the documents of a configuration. -/
def dispatch (config : Config) (h : History) : History :=
  let result := h.batch.submit config.order h.session
  { h with
    batch := result.2.1
    session := result.2.2
    submitted := h.submitted ++
      config.order.submissions h.session.store 0 h.batch.nextTicket config.order.units }

/-- The conclusions of what was submitted, if the workers run in the given order. -/
def round (schedule : List Pending) (h : History) : List Conclusion :=
  h.submitted.filterMap
    (Submission.conclusion? (Batch.workAll h.batch.backend schedule h.session).1)

/-- Joins the batch, which ends a round. -/
def join (schedule : List Pending) (h : History) : History where
  batch := (h.batch.joinIn schedule h.session).1
  session := (h.batch.joinIn schedule h.session).2
  rounds := h.rounds ++ [h.round schedule]
  submitted := []

/-- The histories of sequences of calls. Between any two of them the files, the log and the
requests to stop can change in every way. -/
inductive Possible (backend : Backend) : History → Prop
  | start (session : Session) : Possible backend (start backend session)
  | dispatch {h : History} (config : Config) : Possible backend h →
      Possible backend (h.dispatch config)
  | join {h : History} {schedule : List Pending} (hschedule : schedule.Perm h.batch.pending) :
      Possible backend h → Possible backend (h.join schedule)
  | meanwhile {h : History} (session : Session) : Possible backend h →
      Possible backend { h with session := session }

end History

/-! ### The report that is kept -/

/-- The last report of a round on a kind of document, of the units that were handed to
workers or of the others. -/
def lastOf (kind : Kind) (handed : Bool) (round : List Conclusion) : Option Report :=
  ((round.filter (fun o => o.kind = kind ∧ o.handed = handed)).getLast?).map Conclusion.report

/-- The report of a round on a kind of document. Units that were handed to workers have the
last word. -/
def settles (kind : Kind) (round : List Conclusion) : Option Report :=
  (lastOf kind true round).or (lastOf kind false round)

/-- The report on a kind of document after some rounds. -/
def kept (kind : Kind) (rounds : List (List Conclusion)) : Option Report :=
  rounds.foldl (fun earlier round => (settles kind round).or earlier) none

section Kept

variable {kind : Kind}

theorem kept_concat (rounds : List (List Conclusion)) (round : List Conclusion) :
    kept kind (rounds ++ [round]) = (settles kind round).or (kept kind rounds) := by
  rw [kept, List.foldl_append]
  rfl

theorem lastOf_append (handed : Bool) (front back : List Conclusion) :
    lastOf kind handed (front ++ back) =
      (lastOf kind handed back).or (lastOf kind handed front) := by
  unfold lastOf
  rw [List.filter_append, List.getLast?_append]
  cases (back.filter fun o => o.kind = kind ∧ o.handed = handed).getLast? <;> rfl

theorem lastOf_of_forall {handed : Bool} {round : List Conclusion}
    (h : ∀ o ∈ round, o.kind = kind → o.handed ≠ handed) :
    lastOf kind handed round = none := by
  unfold lastOf
  rw [List.filter_eq_nil_iff.mpr]
  · rfl
  · intro o ho
    rw [decide_eq_true_eq]
    exact fun hboth => h o ho hboth.1 hboth.2

theorem lastOf_cons {o : Conclusion} {back : List Conclusion}
    (h : ∀ other ∈ back, other.kind = o.kind → other.handed ≠ o.handed) :
    lastOf o.kind o.handed (o :: back) = some o.report := by
  rw [← List.singleton_append, lastOf_append, lastOf_of_forall h]
  simp [lastOf]

/-- Rounds without a kind have no say in it. -/
theorem kept_append {earlier later : List (List Conclusion)}
    (h : ∀ round ∈ later, ∀ o ∈ round, o.kind ≠ kind) :
    kept kind (earlier ++ later) = kept kind earlier := by
  induction later using List.reverseRecOn with
  | nil => rw [List.append_nil]
  | append_singleton before round ih =>
    have hround : settles kind round = none := by
      have hnone := h round (List.mem_append_right _ List.mem_cons_self)
      unfold settles
      rw [lastOf_of_forall fun o ho hkind => absurd hkind (hnone o ho),
        lastOf_of_forall fun o ho hkind => absurd hkind (hnone o ho)]
      rfl
    rw [← List.append_assoc, kept_concat, hround, Option.none_or]
    exact ih fun r hr => h r (List.mem_append_left _ hr)

/-- The last round that has a kind decides on it. -/
theorem kept_eq_of_settles {earlier later : List (List Conclusion)} {round : List Conclusion}
    {report : Report} (hround : settles kind round = some report)
    (h : ∀ round ∈ later, ∀ o ∈ round, o.kind ≠ kind) :
    kept kind (earlier ++ round :: later) = some report := by
  rw [← List.singleton_append, ← List.append_assoc, kept_append h, kept_concat, hround,
    Option.some_or]

/-- The unit of its kind that was handed to a worker last has the last word in a round. -/
theorem settles_of_handed {front back : List Conclusion} {o : Conclusion}
    (hhanded : o.handed = true) (h : ∀ other ∈ back, other.kind = o.kind → other.handed = false) :
    settles o.kind (front ++ o :: back) = some o.report := by
  have hlast : lastOf o.kind true (o :: back) = some o.report := by
    have hother : ∀ other ∈ back, other.kind = o.kind → other.handed ≠ o.handed := by
      intro other hother hkind
      rw [hhanded, h other hother hkind]
      exact Bool.false_ne_true
    rw [← hhanded]
    exact lastOf_cons hother
  rw [settles, lastOf_append, hlast, Option.some_or, Option.some_or]

/-- A rejected unit has it where none of its kind was handed to a worker. -/
theorem settles_of_rejected {front back : List Conclusion} {o : Conclusion}
    (hrejected : o.handed = false)
    (hfront : ∀ other ∈ front, other.kind = o.kind → other.handed = false)
    (hback : ∀ other ∈ back, other.kind ≠ o.kind) :
    settles o.kind (front ++ o :: back) = some o.report := by
  have hnone : lastOf o.kind true (front ++ o :: back) = none := by
    refine lastOf_of_forall fun other hother hkind => ne_true_of_eq_false ?_
    rcases List.mem_append.mp hother with hmem | hmem
    · exact hfront other hmem hkind
    · rcases List.mem_cons.mp hmem with rfl | hmem
      · exact hrejected
      · exact absurd hkind (hback other hmem)
  have hlast : lastOf o.kind false (o :: back) = some o.report := by
    rw [← hrejected]
    exact lastOf_cons fun other hother hkind => absurd hkind (hback other hother)
  rw [settles, hnone, Option.none_or, lastOf_append, hlast, Option.some_or]

end Kept

/-! ### What holds after every call -/

section Submissions

variable (order : Order) (store : Store)

/-- The units that are rejected are those whose sources cannot be read. -/
theorem filterMap_rejection?_submissions (units : List WorkUnit) (handed ticket : Nat) :
    (order.submissions store handed ticket units).filterMap Submission.rejection? =
      units.filterMap (WorkUnit.rejectionIn store) := by
  induction units generalizing handed ticket with
  | nil => rfl
  | cons u rest ih =>
    rw [Order.submissions, List.filterMap_cons]
    unfold WorkUnit.rejectionIn
    cases u.resolve store with
    | error error => exact congrArg (_ :: ·) (ih handed ticket)
    | ok _ => exact ih (handed + 1) (ticket + 1)

/-- The units that are handed to workers are under way afterwards. -/
theorem pending_submitAll (units : List WorkUnit) (handed : Nat) (batch : Batch)
    (session : Session) :
    (Batch.submitAll order handed units batch session).2.1.pending = batch.pending ++
      (order.submissions session.store handed batch.nextTicket units).filterMap
        Submission.pending? := by
  induction units generalizing handed batch session with
  | nil => exact (List.append_nil _).symm
  | cons u rest ih =>
    obtain ⟨entries, hone⟩ := Batch.submitOne_eq order handed u batch session
    rw [Batch.submitAll, hone, Order.submissions]
    cases u.resolve session.store with
    | error error => exact ih _ _ _
    | ok _ =>
      refine (ih _ _ _).trans ?_
      rw [List.append_assoc]
      rfl

theorem pending_submit (batch : Batch) (session : Session) :
    (batch.submit order session).2.1.pending = batch.pending ++
      (order.submissions session.store 0 batch.nextTicket order.units).filterMap
        Submission.pending? := by
  unfold Batch.submit
  split_ifs with hempty
  · rw [List.isEmpty_iff.mp hempty]
    exact (List.append_nil _).symm
  · exact pending_submitAll order order.units 0 batch session

end Submissions

section Conclusions

variable {reports : List (Nat × Report)} {submitted : List Submission}

/-- There is a report on every unit that was handed to a worker, and it is of its kind. -/
def Reported (reports : List (Nat × Report)) (submitted : List Submission) : Prop :=
  ∀ p ∈ submitted.filterMap Submission.pending?,
    ∃ report, reports.lookup p.ticket = some report ∧ report.kind = p.unit.kind

theorem Reported.tail {s : Submission} (h : Reported reports (s :: submitted)) :
    Reported reports submitted := by
  intro p hp
  obtain ⟨s', hs', hpending⟩ := List.mem_filterMap.mp hp
  exact h p (List.mem_filterMap.mpr ⟨s', List.mem_cons_of_mem s hs', hpending⟩)

/-- Every submission has its conclusion. -/
theorem conclusion?_eq {s : Submission} (h : Reported reports (s :: submitted)) :
    ∃ o, s.conclusion? reports = some o ∧ o.kind = s.kind ∧ o.handed = s.isHanded ∧
      o.report.kind = o.kind ∧ (s.pending?.bind fun p => reports.lookup p.ticket) =
        (if o.handed then some o.report else none) ∧
      s.rejection? = if o.handed then none else some o.report := by
  cases s with
  | rejected u error => exact ⟨_, rfl, rfl, rfl, u.kind_rejection error, rfl, rfl⟩
  | handed p =>
    obtain ⟨report, hlookup, hkind⟩ := h p List.mem_cons_self
    refine ⟨⟨p.unit.kind, true, report⟩, ?_, rfl, rfl, hkind, hlookup, rfl⟩
    rw [Submission.conclusion?, hlookup]
    rfl

/-- No submission is lost or doubled when a round ends. -/
theorem map_conclusion? (h : Reported reports submitted) :
    (submitted.filterMap (Submission.conclusion? reports)).map (fun o => (o.kind, o.handed)) =
      submitted.map (fun s => (s.kind, s.isHanded)) := by
  induction submitted with
  | nil => rfl
  | cons s rest ih =>
    obtain ⟨o, hconclusion, hkind, hhanded, -⟩ := conclusion?_eq h
    rw [List.filterMap_cons_some hconclusion, List.map_cons, List.map_cons, ih h.tail, hkind,
      hhanded]

theorem kind_of_mem_conclusions (h : Reported reports submitted) {o : Conclusion}
    (ho : o ∈ submitted.filterMap (Submission.conclusion? reports)) : o.report.kind = o.kind := by
  induction submitted with
  | nil => cases ho
  | cons s rest ih =>
    obtain ⟨first, hconclusion, -, -, hkind, -⟩ := conclusion?_eq h
    rw [List.filterMap_cons_some hconclusion] at ho
    rcases List.mem_cons.mp ho with rfl | ho
    · exact hkind
    · exact ih h.tail ho

/-- The reports of a round on a kind of document, of the units that were handed to workers or
of the others. -/
theorem map_report_filter (h : Reported reports submitted) (kind : Kind) (handed : Bool) :
    ((submitted.filterMap (Submission.conclusion? reports)).filter
        (fun o => o.kind = kind ∧ o.handed = handed)).map Conclusion.report =
      (submitted.filterMap (fun s =>
          if handed then s.pending?.bind fun p => reports.lookup p.ticket else s.rejection?)).filter
        (fun report => report.kind = kind) := by
  induction submitted with
  | nil => rfl
  | cons s rest ih =>
    obtain ⟨o, hconclusion, -, -, hkind, hpending, hrejection⟩ := conclusion?_eq h
    rw [List.filterMap_cons_some hconclusion, List.filterMap_cons, hpending, hrejection]
    have hrest := ih h.tail
    by_cases hsame : o.kind = kind
    · by_cases hhanded : o.handed = handed
      · rw [List.filter_cons_of_pos (by simp [hsame, hhanded]), List.map_cons, hrest]
        cases handed <;> simp [hhanded, hkind, hsame]
      · rw [List.filter_cons_of_neg (by simp [hhanded]), hrest]
        cases handed <;> simp [hhanded]
    · rw [List.filter_cons_of_neg (by simp [hsame]), hrest]
      cases handed <;> cases o.handed <;> simp [hkind, hsame]

theorem lastOf_conclusions (h : Reported reports submitted) (kind : Kind) (handed : Bool) :
    lastOf kind handed (submitted.filterMap (Submission.conclusion? reports)) =
      ((submitted.filterMap (fun s =>
          if handed then s.pending?.bind fun p => reports.lookup p.ticket else s.rejection?)).filter
        (fun report => report.kind = kind)).getLast? := by
  rw [lastOf, ← List.getLast?_map, map_report_filter h]

end Conclusions

namespace History

variable {backend : Backend} {h : History}

/-- What holds after every call. -/
structure Sound (backend : Backend) (h : History) : Prop where
  backend : h.batch.backend = backend
  pending : h.batch.pending = h.submitted.filterMap Submission.pending?
  tickets : (h.batch.pending.map Pending.ticket).Nodup
  nextTicket : ∀ p ∈ h.batch.pending, p.ticket < h.batch.nextTicket
  fresh : ∀ p ∈ h.batch.pending, p.unit.status = .pending
  kinds : ∀ round ∈ h.rounds, ∀ o ∈ round, o.report.kind = o.kind
  /-- Units that were rejected are on record, and otherwise what the rounds have left. -/
  results : ∀ kind, h.batch.results.get? kind =
    ((h.submitted.filterMap Submission.rejection?).filter
      (fun report => report.kind = kind)).getLast?.or (kept kind h.rounds)

theorem Sound.start (backend : Backend) (session : Session) :
    Sound backend (start backend session) where
  backend := rfl
  pending := rfl
  tickets := List.nodup_nil
  nextTicket := fun _ hp => absurd hp List.not_mem_nil
  fresh := fun _ hp => absurd hp List.not_mem_nil
  kinds := fun _ hr => absurd hr List.not_mem_nil
  results := fun kind => by cases kind <;> rfl

theorem Sound.meanwhile (hsound : h.Sound backend) (session : Session) :
    Sound backend { h with session := session } :=
  ⟨hsound.backend, hsound.pending, hsound.tickets, hsound.nextTicket, hsound.fresh, hsound.kinds,
    hsound.results⟩

/-- Submitting records the units that are rejected and hands the others to workers. -/
theorem Sound.dispatch (hsound : h.Sound backend) (config : Config) :
    Sound backend (h.dispatch config) := by
  have hsubmitted := Batch.submitted_submit config.order h.batch h.session
  have hpending := pending_submit config.order h.batch h.session
  obtain ⟨fresh, hfresh, hunits, -, hrange, hdistinct⟩ := hsubmitted.pending
  exact {
    backend := hsubmitted.backend.trans hsound.backend
    pending := by
      change (h.batch.submit config.order h.session).2.1.pending = _
      rw [hpending, hsound.pending, History.dispatch, List.filterMap_append]
    tickets := by
      change ((h.batch.submit config.order h.session).2.1.pending.map Pending.ticket).Nodup
      rw [hfresh, List.map_append, List.nodup_append]
      refine ⟨hsound.tickets, hdistinct, ?_⟩
      -- The tickets of the units under way were given out before.
      intro _ hold _ hnew heq
      obtain ⟨p, hp, rfl⟩ := List.mem_map.mp hold
      obtain ⟨q, hq, rfl⟩ := List.mem_map.mp hnew
      have hlt := hsound.nextTicket p hp
      have hle := (hrange q hq).1
      omega
    nextTicket := by
      intro p hp
      change p ∈ (h.batch.submit config.order h.session).2.1.pending at hp
      rw [hfresh] at hp
      rcases List.mem_append.mp hp with hold | hnew
      · exact Nat.lt_of_lt_of_le (hsound.nextTicket p hold) hsubmitted.nextTicket
      · exact (hrange p hnew).2
    fresh := by
      intro p hp
      change p ∈ (h.batch.submit config.order h.session).2.1.pending at hp
      rw [hfresh] at hp
      rcases List.mem_append.mp hp with hold | hnew
      · exact hsound.fresh p hold
      · have hunit := List.mem_map_of_mem (f := Pending.unit) hnew
        rw [hunits] at hunit
        exact Config.status_of_mem_units (List.mem_filter.mp hunit).1
    kinds := hsound.kinds
    results := by
      intro kind
      change (h.batch.submit config.order h.session).2.1.results.get? kind = _
      rw [hsubmitted.results, Results.get?_recordEach, hsound.results, History.dispatch,
        List.filterMap_append, filterMap_rejection?_submissions, List.filter_append,
        List.getLast?_append, Option.or_assoc] }

/-- Every unit under way gets a report of its own kind. -/
theorem Sound.lookup (hsound : h.Sound backend) {schedule : List Pending}
    (hschedule : schedule.Perm h.batch.pending) {p : Pending} (hp : p ∈ h.batch.pending) :
    ∃ report, (Batch.workAll h.batch.backend schedule h.session).1.lookup p.ticket =
      some report ∧ report.kind = p.unit.kind := by
  have htickets : (schedule.map Pending.ticket).Nodup :=
    (hschedule.map Pending.ticket).nodup_iff.mpr hsound.tickets
  have hfresh : ∀ q ∈ schedule, q.unit.status = .pending := fun q hq =>
    hsound.fresh q (hschedule.mem_iff.mp hq)
  have hmem := hschedule.mem_iff.mpr hp
  obtain ⟨before, after, rfl⟩ := List.append_of_mem hmem
  have hbefore : ∀ q ∈ before, q.ticket ≠ p.ticket := by
    rw [List.map_append, List.map_cons, List.nodup_append] at htickets
    exact fun q hq => htickets.2.2 _ (List.mem_map_of_mem hq) _ List.mem_cons_self
  exact ⟨_, Batch.lookup_workAll hbefore h.session, Batch.kind_work _ (hfresh p hmem) _⟩

theorem Sound.reported (hsound : h.Sound backend) {schedule : List Pending}
    (hschedule : schedule.Perm h.batch.pending) :
    Reported (Batch.workAll h.batch.backend schedule h.session).1 h.submitted := by
  intro p hp
  exact hsound.lookup hschedule (hsound.pending ▸ hp)

/-- Joining ends the round, whose reports are recorded over those of the units that were
rejected in it. -/
theorem Sound.join (hsound : h.Sound backend) {schedule : List Pending}
    (hschedule : schedule.Perm h.batch.pending) : Sound backend (h.join schedule) := by
  have hreported := hsound.reported hschedule
  have hnone : (h.join schedule).batch.pending = [] := Batch.pending_joinIn _ _ _
  have hnot : ∀ p, p ∉ (h.join schedule).batch.pending := fun p hp => by
    rw [hnone] at hp
    cases hp
  exact {
    backend := (Batch.backend_joinIn _ _ _).trans hsound.backend
    pending := hnone
    tickets := by
      rw [hnone]
      exact List.nodup_nil
    nextTicket := fun p hp => absurd hp (hnot p)
    fresh := fun p hp => absurd hp (hnot p)
    kinds := by
      intro round hround
      rcases List.mem_append.mp hround with hround | hround
      · exact hsound.kinds round hround
      · rw [List.mem_singleton.mp hround]
        exact fun o ho => kind_of_mem_conclusions hreported ho
    results := by
      intro kind
      have hlast := lastOf_conclusions hreported kind
      change (h.batch.joinIn schedule h.session).1.results.get? kind = kept kind (h.rounds ++ [_])
      rw [Batch.results_joinIn, Results.get?_recordEach, hsound.results, hsound.pending,
        List.filterMap_filterMap, kept_concat, settles, round, hlast, hlast, Option.or_assoc]
      rfl }

/-- Every sequence of calls leaves a sound history. -/
theorem Possible.sound (hpossible : h.Possible backend) : h.Sound backend := by
  induction hpossible with
  | start session => exact .start backend session
  | dispatch config _ ih => exact ih.dispatch config
  | join hschedule _ ih => exact ih.join hschedule
  | meanwhile session _ ih => exact ih.meanwhile session

end History

/-! ### Which reports are kept -/

/-- No conclusion is of the given kind. -/
def Without (kind : Kind) (conclusions : List Conclusion) : Prop :=
  ∀ o ∈ conclusions, o.kind ≠ kind

/-- A submission is the most recent one of its kind: `front` and `back` are what came before
and after it in its round, and `later` are the rounds after that. -/
structure Latest (rounds earlier : List (List Conclusion)) (front : List Conclusion)
    (o : Conclusion) (back : List Conclusion) (later : List (List Conclusion)) : Prop where
  rounds : rounds = earlier ++ (front ++ o :: back) :: later
  back : Without o.kind back
  later : ∀ round ∈ later, Without o.kind round

/-- Which reports are kept once a batch is joined. -/
structure Kept (schedule : List Pending) (h : History) : Prop where
  /-- The round has an conclusion for everything that was submitted. -/
  round : ∃ round, (h.join schedule).rounds = h.rounds ++ [round] ∧
    round.map (fun o => (o.kind, o.handed)) = h.submitted.map (fun s => (s.kind, s.isHanded))
  /-- Each conclusion has a report on its own kind of document. -/
  kinds : ∀ round ∈ (h.join schedule).rounds, ∀ o ∈ round, o.report.kind = o.kind
  none : ∀ kind, (∀ round ∈ (h.join schedule).rounds, Without kind round) →
    (h.join schedule).batch.results.get? kind = none
  /-- The most recent submission is kept if it was handed to a worker, or if none of its kind
  was under way as it was rejected. -/
  latest : ∀ earlier front o back later,
    Latest (h.join schedule).rounds earlier front o back later →
      (o.handed = true ∨ ∀ other ∈ front, other.kind = o.kind → other.handed = false) →
        (h.join schedule).batch.results.get? o.kind = some o.report
  /-- Otherwise it is the submission that was handed to a worker last. -/
  hidden : ∀ earlier front under middle o back later,
    Latest (h.join schedule).rounds earlier (front ++ under :: middle) o back later →
      o.handed = false → under.handed = true → under.kind = o.kind →
      (∀ other ∈ middle, other.kind = o.kind → other.handed = false) →
        (h.join schedule).batch.results.get? o.kind = some under.report
  /-- So where it is kept, the failure of the most recent submission decides the verdict. -/
  failure : ∀ earlier front o back later,
    Latest (h.join schedule).rounds earlier front o back later →
      (o.handed = true ∨ ∀ other ∈ front, other.kind = o.kind → other.handed = false) →
        o.report.status = .failed → (h.join schedule).batch.results.exitCode = 1

theorem History.Sound.get?_join {backend : Backend} {h : History} (hsound : h.Sound backend)
    {schedule : List Pending} (hschedule : schedule.Perm h.batch.pending) (kind : Kind) :
    (h.join schedule).batch.results.get? kind = kept kind (h.join schedule).rounds :=
  (hsound.join hschedule).results kind

/-- The most recent submission has the last word on its kind if it was handed to a worker, or
if none of its kind was under way. -/
theorem Latest.kept {rounds earlier later : List (List Conclusion)} {front back : List Conclusion}
    {o : Conclusion} (h : Latest rounds earlier front o back later)
    (hword : o.handed = true ∨ ∀ other ∈ front, other.kind = o.kind → other.handed = false) :
    Vitae.kept o.kind rounds = some o.report := by
  rw [h.rounds]
  refine kept_eq_of_settles ?_ h.later
  cases hhanded : o.handed with
  | true => exact settles_of_handed hhanded fun other hother hkind =>
      absurd hkind (h.back other hother)
  | false =>
    have hfront := hword.resolve_left (ne_true_of_eq_false hhanded)
    exact settles_of_rejected hhanded hfront h.back

/-- After any sequence of calls that ends with a join, the report on each kind of document is
that of the most recent submission, unless this one was rejected while an earlier one of its
kind was under way. -/
theorem kept_join {backend : Backend} {h : History} (hpossible : h.Possible backend)
    {schedule : List Pending} (hschedule : schedule.Perm h.batch.pending) : Kept schedule h where
  round := ⟨_, rfl, map_conclusion? (hpossible.sound.reported hschedule)⟩
  kinds := (hpossible.sound.join hschedule).kinds
  none := by
    intro kind hwithout
    rw [hpossible.sound.get?_join hschedule, ← List.nil_append (h.join schedule).rounds,
      kept_append hwithout]
    rfl
  latest := by
    intro earlier front o back later hlatest hword
    rw [hpossible.sound.get?_join hschedule]
    exact hlatest.kept hword
  hidden := by
    intro earlier front under middle o back later hlatest hrejected hunder hkind hmiddle
    rw [hpossible.sound.get?_join hschedule, hlatest.rounds, List.append_assoc,
      List.cons_append, ← hkind]
    refine kept_eq_of_settles (settles_of_handed hunder ?_) (hkind ▸ hlatest.later)
    intro other hother hsame
    rw [hkind] at hsame
    rcases List.mem_append.mp hother with hmem | hmem
    · exact hmiddle other hmem hsame
    · rcases List.mem_cons.mp hmem with rfl | hmem
      · exact hrejected
      · exact absurd hsame (hlatest.back other hmem)
  failure := by
    intro earlier front o back later hlatest hword hfailed
    have hkept := hlatest.kept hword
    rw [← hpossible.sound.get?_join hschedule] at hkept
    exact (Results.exitCode_eq _).1 ⟨o.kind, o.report, hkept, hfailed⟩

/-- A backend that says it is done without doing anything. -/
def idleBackend : Backend := ⟨"idle", fun job _ session => (.completed job.output 1, session)⟩

/-- A document that can be read is submitted, and then one of its kind that cannot. -/
def hiddenHistory : History :=
  ((History.start idleBackend sampleSession).dispatch
    { sampleConfig with letterSource := none }).dispatch
    { sampleConfig with cvSource := some (Path.ofText "missing.json"), letterSource := none }

theorem possible_hiddenHistory : hiddenHistory.Possible idleBackend :=
  .dispatch _ (.dispatch _ (.start sampleSession))

/-- The one that cannot be read is submitted last and has failed, but the report that is kept
is on the other one, and so is the verdict. -/
theorem hidden_failure :
    hiddenHistory.Possible idleBackend ∧
      (hiddenHistory.join hiddenHistory.batch.pending).rounds.flatten.map
          (fun o => (o.kind, o.handed, o.report.status)) =
        [(.cv, true, .succeeded), (.cv, false, .failed)] ∧
      ((hiddenHistory.join hiddenHistory.batch.pending).batch.results.get? .cv).map
        Report.status = some .succeeded ∧
      (hiddenHistory.join hiddenHistory.batch.pending).batch.results.exitCode = 0 :=
  ⟨possible_hiddenHistory, by decide +kernel, by decide +kernel, by decide +kernel⟩

/-- What is kept of it is what was under way. -/
theorem kept_join_hidden :
    hiddenHistory.Possible idleBackend ∧
      hiddenHistory.batch.pending.Perm hiddenHistory.batch.pending ∧
      Kept hiddenHistory.batch.pending hiddenHistory :=
  ⟨possible_hiddenHistory, .refl _, kept_join possible_hiddenHistory (.refl _)⟩

end Vitae
