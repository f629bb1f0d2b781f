import Vitae.Proofs.Compile.Trace

/-!
# The Life of a Unit

A unit is asked to go from one status to another, again and again, and then it ends in one of
its ways. What it makes of a request is up to its status alone: it goes there, or it refuses
and stays as it is. So the changes that it makes, those on the way to its end included, follow
one upon the other (`course_changes`), and from the beginning there are not many courses that
they can take (`Course.of_pending`).

Each way to end a unit is a few more requests and then a report (`endBy_eq`). The answers are
not looked at. That does no harm, as a unit that has ended refuses everything and reports the
status it has, and any other can come to any end.

A backend that crashes leaves no report. Whoever runs the unit writes one then, and it tells of
a failure.

## Main definitions

* `Course`: Changes that follow one upon the other.
* `WorkUnit.asked`, `WorkUnit.changes`: What becomes of a unit that is asked, and how.
* `WorkUnit.endBy`: Ends a unit in a given way, with any backend.
* `WorkUnit.Way.requests`: What a unit is asked in order to end.
* `WorkUnit.Lifecycle`: The requests, the end and the report of a unit.

## Theorems

* `Course.of_pending`, `Course.shape`: The courses from the beginning.
* `WorkUnit.advance_cases`: What a unit makes of a request.
* `WorkUnit.course_changes`: The changes of a unit follow one upon the other.
* `WorkUnit.asked_of_isTerminal`: A unit that has ended.
* `WorkUnit.endBy_eq`: An end is a few requests and a report.
* `WorkUnit.lifecycle_endBy`: The life of a unit.
-/

namespace Vitae

/-- Changes that follow one upon the other and lead from one status to another. -/
inductive Course : Status → List (Status × Status) → Status → Prop where
  | stay (status : Status) : Course status [] status
  | go {status next final : Status} {changes : List (Status × Status)} :
      status.canAdvanceTo next = true → Course next changes final →
      Course status ((status, next) :: changes) final

namespace Course

variable {status middle final : Status} {changes more : List (Status × Status)}

theorem append (h : Course status changes middle) (h' : Course middle more final) :
    Course status (changes ++ more) final := by
  induction h with
  | stay => exact h'
  | go hstep _ ih => exact .go hstep (ih h')

/-- Nothing follows upon an end. -/
theorem nil_of_isTerminal (h : Course status changes final) (hstatus : status.isTerminal = true) :
    changes = [] ∧ final = status := by
  cases h with
  | stay => exact ⟨rfl, rfl⟩
  | go hstep _ =>
    rw [Status.not_canAdvanceTo_of_isTerminal hstatus] at hstep
    cases hstep

theorem of_running (h : Course .running changes final) :
    changes = [] ∧ final = .running ∨ changes = [(.running, final)] ∧ final.isTerminal = true := by
  cases h with
  | stay => exact .inl ⟨rfl, rfl⟩
  | go hstep hrest =>
    obtain ⟨rfl, rfl⟩ := hrest.nil_of_isTerminal hstep
    exact .inr ⟨rfl, hstep⟩

/-- There are four courses from the beginning: not to begin, to end at once, to run, and to run
and to end. -/
theorem of_pending (h : Course .pending changes final) :
    changes = [] ∧ final = .pending ∨ changes = [(.pending, final)] ∧ final.isTerminal = true ∨
      changes = [(.pending, .running)] ∧ final = .running ∨
      changes = [(.pending, .running), (.running, final)] ∧ final.isTerminal = true := by
  cases h with
  | stay => exact .inl ⟨rfl, rfl⟩
  | @go _ next _ rest hstep hrest =>
    cases next with
    | pending => cases hstep
    | running =>
      rcases hrest.of_running with ⟨rfl, rfl⟩ | ⟨rfl, hterminal⟩
      · exact .inr (.inr (.inl ⟨rfl, rfl⟩))
      · exact .inr (.inr (.inr ⟨rfl, hterminal⟩))
    | succeeded | failed | interrupted =>
      obtain ⟨rfl, rfl⟩ := hrest.nil_of_isTerminal rfl
      exact .inr (.inl ⟨rfl, rfl⟩)

/-- A unit that waits may begin to run, and may come to one end. -/
theorem shape (h : Course .pending changes final) :
    ∃ (begun : List Status) (ended : Option Status),
      changes.map Prod.snd = begun ++ ended.toList ∧ (begun = [] ∨ begun = [.running]) ∧
      ∀ status ∈ ended, status.isTerminal = true := by
  rcases h.of_pending with ⟨rfl, rfl⟩ | ⟨rfl, hterminal⟩ | ⟨rfl, rfl⟩ | ⟨rfl, hterminal⟩
  · exact ⟨[], none, rfl, .inl rfl, nofun⟩
  · exact ⟨[], some final, rfl, .inl rfl, fun _ hmem => Option.mem_some.mp hmem ▸ hterminal⟩
  · exact ⟨[.running], none, rfl, .inr rfl, nofun⟩
  · exact ⟨[.running], some final, rfl, .inr rfl, fun _ hmem => Option.mem_some.mp hmem ▸ hterminal⟩

end Course

/-- What a unit is asked if its compilation ends like this. After a crash no one asks any more. -/
def Ending.requests : Ending → List Status
  | .crashed _ => [.running]
  | ending => [.running, ending.outcome]

theorem Ending.requests_eq {ending : Ending} (h : ∀ words, ending ≠ .crashed words) :
    ending.requests = [.running, ending.outcome] := by
  cases ending with
  | crashed words => exact absurd rfl (h words)
  | _ => rfl

namespace WorkUnit

/-! ### Requests -/

/-- What becomes of a unit that is asked to go to one status after the other. -/
def asked (u : WorkUnit) (requests : List Status) : WorkUnit :=
  requests.foldl (fun u next => (u.advance next).2) u

/-- The changes that a unit makes when it is asked to. -/
def changes (u : WorkUnit) : List Status → List (Status × Status)
  | [] => []
  | next :: rest =>
    if (u.advance next).1 then (u.status, next) :: (u.advance next).2.changes rest
    else (u.advance next).2.changes rest

variable {u : WorkUnit}

theorem asked_cons (u : WorkUnit) (next : Status) (rest : List Status) :
    u.asked (next :: rest) = (u.advance next).2.asked rest :=
  rfl

theorem asked_append (u : WorkUnit) (requests more : List Status) :
    u.asked (requests ++ more) = (u.asked requests).asked more :=
  List.foldl_append

/-- A unit goes where it is asked to, or it refuses and stays as it is. -/
theorem advance_cases (u : WorkUnit) (next : Status) :
    (u.status.canAdvanceTo next = true ∧ u.advance next = (true, { u with status := next })) ∨
      (u.status.canAdvanceTo next = false ∧ u.advance next = (false, u)) := by
  cases h : u.status.canAdvanceTo next with
  | true => exact .inl ⟨rfl, if_pos h⟩
  | false => exact .inr ⟨rfl, if_neg (Bool.not_eq_true _ ▸ h)⟩

/-- A unit that has not ended comes to any end that it is asked to come to. -/
theorem status_advance_of_open (h : u.status.isTerminal = false) {next : Status}
    (hnext : next.isTerminal = true) : (u.advance next).2.status = next := by
  rw [status_advance u hnext, h]
  rfl

/-- The changes of a unit follow one upon the other and lead to the status it has then. -/
theorem course_changes (u : WorkUnit) (requests : List Status) :
    Course u.status (u.changes requests) (u.asked requests).status := by
  induction requests generalizing u with
  | nil => exact .stay _
  | cons next rest ih =>
    rw [changes, asked_cons]
    -- What is refused is no change, and the unit goes on as it was.
    rcases u.advance_cases next with ⟨hcan, hadvance⟩ | ⟨-, hadvance⟩
    · rw [hadvance]
      exact .go hcan (ih { u with status := next })
    · rw [hadvance]
      exact ih u

example (source output : Path) :
    (WorkUnit.new .cv source output .standard).changes [.running, .pending, .failed, .succeeded] =
      [(.pending, .running), (.running, .failed)] :=
  rfl

/-- A unit that has ended stays as it is. -/
theorem asked_of_isTerminal (h : u.status.isTerminal = true) (requests : List Status) :
    u.asked requests = u := by
  induction requests with
  | nil => rfl
  | cons next rest ih =>
    rcases u.advance_cases next with ⟨hcan, -⟩ | ⟨-, hadvance⟩
    · rw [Status.not_canAdvanceTo_of_isTerminal h] at hcan
      cases hcan
    · rw [asked_cons, hadvance]
      exact ih

/-! ### Ends -/

/-- Ends a unit in the given way, with the given backend if it is to be compiled. -/
def endBy (u : WorkUnit) (backend : Backend) (context : Context) (session : Session) :
    Way → Except (Option String) Report × Session
  | .reject error =>
    let (report, session) := u.reject error session
    (.ok report, session)
  | .cancel =>
    let (report, session) := u.cancelBeforeStart context session
    (.ok report, session)
  | .execute => u.execute backend context session

/-- How the call of the backend ends if the unit is executed. -/
def endingOf (u : WorkUnit) (backend : Backend) (context : Context) (session : Session) :
    Ending × Session :=
  let (u, session) := u.transition .running context session
  backend.render u.job context (session.trace context ("invoking " ++ backend.name ++ " backend"))

/-- What a unit is asked in order to end. -/
def Way.requests (ending : Ending) : Way → List Status
  | .reject _ => [.failed]
  | .cancel => [.interrupted]
  | .execute => ending.requests

/-- What becomes of a unit that ends in the given way, if it has not ended before. -/
def Way.outcome (ending : Ending) : Way → Status
  | .reject _ => .failed
  | .cancel => .interrupted
  | .execute => ending.outcome

theorem Way.isTerminal_outcome (way : Way) (ending : Ending) :
    (way.outcome ending).isTerminal = true := by
  cases way with
  | reject | cancel => rfl
  | execute => cases ending <;> rfl

theorem transition_fst (u : WorkUnit) (next : Status) (context : Context) (session : Session) :
    (u.transition next context session).1 = (u.advance next).2 := by
  unfold transition
  rcases u.advance_cases next with ⟨-, hadvance⟩ | ⟨-, hadvance⟩ <;> rw [hadvance]

/-- An end is a few requests and then a report on the unit as it stands, unless the backend
crashes. -/
theorem endBy_eq (u : WorkUnit) (backend : Backend) (context : Context) (session : Session)
    (way : Way) :
    (∃ words, way = .execute ∧ (u.endingOf backend context session).1 = .crashed words ∧
        (u.endBy backend context session way).1 = .error words) ∨
      (way = .execute → ∀ words, (u.endingOf backend context session).1 ≠ .crashed words) ∧
        ∃ report, (u.endBy backend context session way).1 = .ok report ∧
          report.status =
            (u.asked (way.requests (u.endingOf backend context session).1)).status := by
  cases way with
  | reject error => exact .inr ⟨nofun, _, rfl, rfl⟩
  | cancel =>
    have hstatus : (u.transition .interrupted context session).1.status =
        (u.asked [.interrupted]).status :=
      congrArg WorkUnit.status (u.transition_fst ..)
    exact .inr ⟨nofun, _, rfl, hstatus⟩
  | execute =>
    have hexecute : u.endBy backend context session .execute =
        (u.transition .running context session).1.conclude context
          (u.endingOf backend context session).1 (u.endingOf backend context session).2 :=
      rfl
    -- Nobody asks the unit to end after a crash, so it is no more than running.
    by_cases hcrash : ∃ words, (u.endingOf backend context session).1 = .crashed words
    · obtain ⟨words, hending⟩ := hcrash
      refine .inl ⟨words, rfl, hending, ?_⟩
      rw [hexecute, hending]
      rfl
    · have hending := not_exists.mp hcrash
      have hconclude := (u.transition .running context session).1.conclude_eq context hending
        (u.endingOf backend context session).2
      refine .inr ⟨fun _ => hending, _, congrArg Prod.fst (hexecute.trans hconclude), ?_⟩
      rw [Way.requests, Ending.requests_eq hending, report, transition_fst, transition_fst]
      rfl

/-- A unit that has not ended comes to the end that goes with the way. -/
theorem status_asked_requests (way : Way) {ending : Ending}
    (hcrash : way = .execute → ∀ words, ending ≠ .crashed words)
    (h : u.status.isTerminal = false) :
    (u.asked (way.requests ending)).status = way.outcome ending := by
  cases way with
  | reject => exact status_advance_of_open h rfl
  | cancel => exact status_advance_of_open h rfl
  | execute =>
    rw [Way.requests, Ending.requests_eq (hcrash rfl)]
    refine (u.status_advance_running (Way.isTerminal_outcome .execute ending)).trans ?_
    rw [h]
    rfl

theorem reportOf_of_ok {result : Except (Option String) Report × Session} {report : Report}
    (h : result.1 = .ok report) : (Batch.reportOf u result).1 = report := by
  obtain ⟨answer, after⟩ := result
  subst h
  rfl

/-- The report on a crash tells of a failure. -/
theorem status_reportOf_of_error {result : Except (Option String) Report × Session}
    {words : Option String} (h : result.1 = .error words) :
    (Batch.reportOf u result).1.status = .failed := by
  obtain ⟨answer, after⟩ := result
  subst h
  rfl

/-! ### Lives -/

/-- The life of a unit: it is asked to go from one status to another, and then it ends in some
way and is reported. -/
structure Lifecycle (u : WorkUnit) (requests : List Status) (way : Way) (ending : Ending)
    (result : Except (Option String) Report × Session) : Prop where
  /-- A request that is refused changes nothing. -/
  answers : ∀ earlier next, earlier ++ [next] <+: requests →
    ((u.asked earlier).status.canAdvanceTo next = true ∧
        (u.asked earlier).advance next = (true, { u.asked earlier with status := next })) ∨
      ((u.asked earlier).status.canAdvanceTo next = false ∧
        (u.asked earlier).advance next = (false, u.asked earlier))
  /-- The changes follow one upon the other, those on the way to the end included. -/
  course : Course .pending (u.changes (requests ++ way.requests ending))
    (u.asked (requests ++ way.requests ending)).status
  /-- The unit may begin to run, and may come to one end. -/
  shape : ∃ (begun : List Status) (ended : Option Status),
    (u.changes (requests ++ way.requests ending)).map Prod.snd = begun ++ ended.toList ∧
    (begun = [] ∨ begun = [.running]) ∧ ∀ status ∈ ended, status.isTerminal = true
  /-- There is a report unless the backend has crashed. -/
  crashed : ∀ words, result.1 = .error words ↔ way = .execute ∧ ending = .crashed words
  /-- The report tells where the changes lead. -/
  reported : ∀ report, result.1 = .ok report →
    report.status = (u.asked (requests ++ way.requests ending)).status
  /-- An end that was reached once is kept, and it is what a report tells. -/
  final : ∀ earlier, earlier <+: requests → (u.asked earlier).status.isTerminal = true →
    u.asked requests = u.asked earlier ∧
    ∀ report, result.1 = .ok report → report.status = (u.asked earlier).status
  /-- Otherwise the report tells what became of the unit. After a crash it is written by the
  worker. -/
  ends : (u.asked requests).status.isTerminal = false →
    (Batch.reportOf u result).1.status = way.outcome ending ∧ (way.outcome ending).isTerminal = true

/-- The life of every unit, whatever it is asked and however it ends. -/
theorem lifecycle_endBy (kind : Kind) (source output : Path) (options : Options)
    (requests : List Status) (way : Way) (backend : Backend) (context : Context)
    (session : Session) :
    let u := WorkUnit.new kind source output options
    u.Lifecycle requests way ((u.asked requests).endingOf backend context session).1
      ((u.asked requests).endBy backend context session way) := by
  intro u
  let ending := ((u.asked requests).endingOf backend context session).1
  have hcourse := u.course_changes (requests ++ way.requests ending)
  have hresult := (u.asked requests).endBy_eq backend context session way
  have hreported : ∀ report,
      ((u.asked requests).endBy backend context session way).1 = .ok report →
      report.status = (u.asked (requests ++ way.requests ending)).status := by
    intro report hreport
    rcases hresult with ⟨words, -, -, herror⟩ | ⟨-, _, hok, hstatus⟩
    · cases herror.symm.trans hreport
    · cases hok.symm.trans hreport
      rw [asked_append]
      exact hstatus
  exact
    { answers := fun earlier next _ => (u.asked earlier).advance_cases next
      course := hcourse
      shape := hcourse.shape
      crashed := by
        intro words
        rcases hresult with ⟨said, hway, hending, herror⟩ | ⟨hcalm, _, hok, -⟩
        · rw [herror]
          exact ⟨fun h => Except.error.inj h ▸ ⟨hway, hending⟩,
            fun h => congrArg _ (Ending.crashed.inj (hending.symm.trans h.2))⟩
        · rw [hok]
          exact ⟨nofun, fun h => absurd h.2 (hcalm h.1 words)⟩
      reported := hreported
      final := by
        rintro earlier ⟨later, rfl⟩ hterminal
        -- The requests of the way to end are refused like those before.
        have hkept : ∀ more, u.asked (earlier ++ more) = u.asked earlier := fun more => by
          rw [asked_append, asked_of_isTerminal hterminal]
        refine ⟨hkept later, fun report hreport => (hreported report hreport).trans ?_⟩
        rw [List.append_assoc, hkept]
      ends := by
        refine fun hopen => ⟨?_, way.isTerminal_outcome ending⟩
        rcases hresult with ⟨words, rfl, hending, herror⟩ | ⟨hcalm, _, hok, hstatus⟩
        · rw [status_reportOf_of_error herror, Way.outcome, hending]
          rfl
        · rw [reportOf_of_ok hok]
          exact hstatus.trans (status_asked_requests way hcalm hopen) }

end WorkUnit

end Vitae
