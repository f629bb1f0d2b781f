import Vitae.Compile.Backend
import Vitae.Compile.Status

/-!
# Units of Work

One document on its way from source to file. Whatever happens to a unit, it ends
with a report: what became of it, where its file is, or why there is none. Only a
backend that crashes leaves no report behind; whoever started the unit has to
write one then.

## Main definitions

* `WorkUnit`: A document to be compiled.
* `Report`: What became of a unit.
* `WorkUnit.resolve`: Checks that the source can be read.
* `WorkUnit.reject`, `WorkUnit.cancelBeforeStart`, `WorkUnit.execute`: The ways
  a unit ends.
-/

namespace Vitae

/-- A document to be compiled. -/
structure WorkUnit where
  kind : Kind
  source : Path
  output : Path
  options : Options
  status : Status
deriving DecidableEq, Repr

/-- What became of a unit. -/
structure Report where
  kind : Kind
  source : Path
  status : Status
  /-- The file, if there is one. -/
  output : Option Path
  /-- Why there is none, if the unit has failed. -/
  error : Option UnitError
  /-- How long it took, in microseconds. -/
  elapsed : Nat

namespace Report

/-- A report in one line. -/
def summary (report : Report) : String :=
  let detail :=
    match report.output, report.error with
    | some output, _ => " -> " ++ output.display
    | none, some error => " [" ++ error.code ++ "] " ++ error.message
    | none, none => ""
  report.kind.code ++ " (" ++ report.source.display ++ ") " ++ report.status.name ++ detail ++
    " in " ++ toString (report.elapsed / 1000) ++ " ms"

/-- The report on a unit whose worker crashed. -/
def ofCrash (kind : Kind) (source : Path) (words : String) : Report :=
  ⟨kind, source, .failed, none, some (.crashed words), 0⟩

end Report

namespace WorkUnit

/-- A unit that has not begun. -/
def new (kind : Kind) (source output : Path) (options : Options) : WorkUnit :=
  ⟨kind, source, output, options, .pending⟩

/-- What the backend is to do for a unit. -/
def job (u : WorkUnit) : Job :=
  ⟨u.kind, u.source, u.output, u.options⟩

/-- Asks a unit to go to another state, and tells whether it did. -/
def advance (u : WorkUnit) (next : Status) : Bool × WorkUnit :=
  if u.status.canAdvanceTo next then (true, { u with status := next }) else (false, u)

/-- Takes a unit to another state if it can go there, and notes the change. -/
def transition (u : WorkUnit) (next : Status) (context : Context) (session : Session) :
    WorkUnit × Session :=
  match u.advance next with
  | (true, after) =>
    (after, session.trace context ("status " ++ u.status.name ++ " -> " ++ next.name))
  | (false, after) => (after, session)

/-- Checks that the source is a file that can be opened. -/
def resolve (u : WorkUnit) (store : Store) : Except ConfigError Unit :=
  match store.inspect u.source with
  | .error .notThere => .error (.missingSource u.source)
  | .error refusal => .error (.unreadableSource u.source refusal)
  | .ok (.file _) =>
    match store.canOpen u.source with
    | .error refusal => .error (.unreadableSource u.source refusal)
    | .ok () => .ok ()
  | .ok _ => .error (.notAFile u.source)

/-- The report on a unit as it stands. -/
def report (u : WorkUnit) (output : Option Path) (error : Option UnitError) (elapsed : Nat) :
    Report :=
  ⟨u.kind, u.source, u.status, output, error, elapsed⟩

/-- An entry about the end of a unit. -/
def entry (u : WorkUnit) (level : Level) (message : String)
    (fields : List (String × LogValue)) : LogEntry where
  level := level
  origin := [LogEntry.program, "dispatch", "unit"]
  message := message
  fields := ("unit", .plain u.kind.code) :: fields

/-- The entry about the failure of a unit. -/
def failureEntry (u : WorkUnit) (error : UnitError) : LogEntry :=
  u.entry .error "unit failed" [("code", .quoted error.code), ("error", .plain error.message)]

def reject (u : WorkUnit) (error : UnitError) (session : Session) : Report × Session :=
  let after := (u.advance .failed).2
  (after.report none (some error) 0, session.note (u.failureEntry error))

/-- Ends a unit that was asked to stop before it began. -/
def cancelBeforeStart (u : WorkUnit) (context : Context) (session : Session) :
    Report × Session :=
  let (after, session) := u.transition .interrupted context session
  (after.report none none 0, session.note (u.entry .warning "unit interrupted before starting" []))

/-- Ends a unit whose compilation has ended. Nothing is left of one that
crashed but what was said. -/
def conclude (u : WorkUnit) (context : Context) (ending : Ending) (session : Session) :
    Except (Option String) Report × Session :=
  let elapsed := session.elapsed u.kind
  match ending with
  | .completed output pages =>
    let (after, session) := u.transition .succeeded context session
    (.ok (after.report (some output) none elapsed),
      session.note (u.entry .info "unit succeeded"
        [("output", .plain output.display), ("pages", .number pages),
          ("elapsed_ms", .number (elapsed / 1000))]))
  | .interrupted stage =>
    let (after, session) := u.transition .interrupted context session
    (.ok (after.report none none elapsed),
      session.note (u.entry .warning "unit interrupted" [("stage", .plain stage.name)]))
  | .failed error =>
    let (after, session) := u.transition .failed context session
    (.ok (after.report none (some (.render error)) elapsed),
      session.note (u.failureEntry (.render error)))
  | .crashed words => (.error words, session)

def execute (u : WorkUnit) (backend : Backend) (context : Context) (session : Session) :
    Except (Option String) Report × Session :=
  let (u, session) := u.transition .running context session
  let session := session.trace context ("invoking " ++ backend.name ++ " backend")
  let (ending, session) := backend.render u.job context session
  u.conclude context ending session

end WorkUnit

end Vitae
