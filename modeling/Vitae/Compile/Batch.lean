import Vitae.Compile.WorkUnit

/-!
# Batches

Units are submitted, run on workers, and gathered. A unit whose source cannot be
read is reported at once and never reaches a worker; the others are reported when
the batch is joined. For each kind of document the last report recorded is kept.

Workers may finish in any order. Joining therefore takes the order in which the
units run as an argument; the reports are recorded in the order of submission
whatever it is.

## Main definitions

* `Results`: The reports, one for each kind of document.
* `Results.exitCode`: The verdict on a run.
* `Order`: What is submitted.
* `Batch`: Units under way and the results so far.
* `Batch.submit`, `Batch.joinIn`, `Batch.join`: The life of a batch.

## Theorems

* `Batch.schedule_perm`: Every unit under way has its place in the schedule.
-/

namespace Vitae

/-- The reports, one for each kind of document. -/
structure Results where
  cv : Option Report
  coverLetter : Option Report

namespace Results

/-- No unit has been reported. -/
def empty : Results := ⟨none, none⟩

/-- The report on a kind of document. -/
def get? (results : Results) : Kind → Option Report
  | .cv => results.cv
  | .coverLetter => results.coverLetter

/-- The results with one more report, in place of an earlier one of its
kind. -/
def record (results : Results) (report : Report) : Results :=
  match report.kind with
  | .cv => { results with cv := some report }
  | .coverLetter => { results with coverLetter := some report }

/-- The reports, in order of reporting. -/
def toList (results : Results) : List Report :=
  results.cv.toList ++ results.coverLetter.toList

/-- How many units have ended in a state. -/
def count (results : Results) (status : Status) : Nat :=
  (results.toList.filter (fun r => r.status == status)).length

/-- The verdict on a run: zero if every unit succeeded. A failure counts more
than an interruption. -/
def exitCode (results : Results) : Nat :=
  if 0 < results.count .failed then 1
  else if 0 < results.count .interrupted then 130
  else 0

end Results

/-- What is submitted: the units and how they are to be run. -/
structure Order where
  units : List WorkUnit
  debug : Bool
  /-- Whether units heed the request to stop. -/
  interrupt : Bool
  /-- How many units may run at once, if that is limited. -/
  maxWorkers : Option Nat

/-- How many units of an order may run at once. -/
def Order.workers (order : Order) : Nat :=
  match order.maxWorkers with
  | some limit => min limit order.units.length
  | none => order.units.length

/-- A unit under way. -/
structure Pending where
  /-- Tells the units of a batch apart. -/
  ticket : Nat
  unit : WorkUnit
  debug : Bool
  interrupt : Bool
  /-- How many units of the same order have to end before this one gets a
  worker, counted in turns of all its workers. -/
  turn : Nat
deriving DecidableEq

/-- Units under way and the results so far. -/
structure Batch where
  backend : Backend
  /-- The units under way, in order of submission. -/
  pending : List Pending
  nextTicket : Nat
  results : Results

namespace Batch

/-- A batch without units. -/
def new (backend : Backend) : Batch := ⟨backend, [], 0, .empty⟩

def entry (level : Level) (message : String) (fields : List (String × LogValue)) : LogEntry where
  level := level
  origin := [LogEntry.program, "dispatch", "dispatcher"]
  message := message
  fields := fields

/-- Submits one unit of an order of which some units have been handed to workers
already, and tells whether it was handed to one as well. -/
def submitOne (order : Order) (handed : Nat) (u : WorkUnit) (batch : Batch) (session : Session) :
    Bool × Batch × Session :=
  let session :=
    if order.debug then
      session.note (entry .debug "unit submitted"
        [("unit", .plain u.kind.code), ("source", .plain u.source.display),
          ("output", .plain u.output.display)])
    else session
  match u.resolve session.store with
  | .error error =>
    let (report, session) := u.reject (.config error) session
    (false, { batch with results := batch.results.record report }, session)
  | .ok () =>
    let pending : Pending :=
      ⟨batch.nextTicket, u, order.debug, order.interrupt, handed / order.workers⟩
    (true,
      { batch with pending := batch.pending ++ [pending], nextTicket := batch.nextTicket + 1 },
      session)

/-- Submits the units of an order that follow, and tells how many of its units
were handed to workers in all. -/
def submitAll (order : Order) (handed : Nat) :
    List WorkUnit → Batch → Session → Nat × Batch × Session
  | [], batch, session => (handed, batch, session)
  | u :: rest, batch, session =>
    let (taken, batch, session) := submitOne order handed u batch session
    submitAll order (if taken then handed + 1 else handed) rest batch session

/-- Submits an order, and tells how many units were handed to workers. -/
def submit (order : Order) (batch : Batch) (session : Session) : Nat × Batch × Session :=
  if order.units.isEmpty then
    (0, batch,
      session.note (entry .info "no CV or cover letter requested; nothing to compile" []))
  else
    let (count, batch, session) := submitAll order 0 order.units batch session
    (count, batch,
      session.note (entry .info "dispatched compilation units"
        [("units", .number count), ("workers", .number order.workers)]))

/-- What a worker that crashed is taken to have said. -/
def crashWords (words : Option String) : String :=
  words.getD "worker panicked"

/-- Runs a unit on a worker. A crash becomes a report as well. -/
def work (backend : Backend) (pending : Pending) (session : Session) : Report × Session :=
  let u := pending.unit
  let context : Context := ⟨u.kind, pending.debug, pending.interrupt⟩
  match session.poll context with
  | (true, session) => u.cancelBeforeStart context session
  | (false, session) =>
    match u.execute backend context session with
    | (.ok report, session) => (report, session)
    | (.error words, session) =>
      let words := crashWords words
      (.ofCrash u.kind u.source words,
        session.note (entry .error "unit failed"
          [("unit", .plain u.kind.code), ("code", .quoted "WORKER_PANIC"),
            ("error", .plain words)]))

/-- Runs units one after the other. The reports go with their tickets. -/
def workAll (backend : Backend) : List Pending → Session → List (Nat × Report) × Session
  | [], session => ([], session)
  | pending :: rest, session =>
    let (report, session) := work backend pending session
    let (reports, session) := workAll backend rest session
    ((pending.ticket, report) :: reports, session)

/-- Records the reports on units in the order of the units. -/
def recordAll (reports : List (Nat × Report)) (pending : List Pending) (results : Results) :
    Results :=
  pending.foldl
    (fun results p =>
      match reports.lookup p.ticket with
      | some report => results.record report
      | none => results)
    results

/-- Runs all units under way in the given order and records their reports. A
batch without units is left alone. -/
def joinIn (schedule : List Pending) (batch : Batch) (session : Session) : Batch × Session :=
  if batch.pending.isEmpty then (batch, session)
  else
    let (reports, session) := workAll batch.backend schedule session
    let results := recordAll reports batch.pending batch.results
    ({ batch with pending := [], results := results },
      session.note (entry .info "all units finished"
        [("succeeded", .number (results.count .succeeded)),
          ("failed", .number (results.count .failed)),
          ("interrupted", .number (results.count .interrupted))]))

/-- The units under way in the order in which they begin if one runs at a time:
those that found a worker free, and then those that had to wait for one, turn by
turn. -/
def schedule (batch : Batch) : List Pending :=
  batch.pending.mergeSort fun p q => p.turn ≤ q.turn

/-- Every unit under way has its place in the schedule. -/
theorem schedule_perm (batch : Batch) : batch.schedule.Perm batch.pending :=
  List.mergeSort_perm ..

def join (batch : Batch) (session : Session) : Batch × Session :=
  batch.joinIn batch.schedule session

end Batch

end Vitae
