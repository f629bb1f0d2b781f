import Vitae.Compile.Stage
import Vitae.Compile.Token
import Vitae.Document.Kind
import Vitae.Files.Store
import Vitae.Log.Entry

/-!
# Sessions

What a compilation acts on: the files, the log, and the token that asks it to
stop. The steps of a compilation take a session and give back the next one.

The request to stop can come at any moment from outside. A compilation notices
it only when it polls, so the moments are counted in polls: the session holds
what the outside would answer at each of them.

## Main definitions

* `Session`: The files, the log and the request to stop.
* `Context`: What a single unit sees of a session.
* `Session.poll`: Asks whether to stop.
* `Session.enter`, `Session.trace`: Notes on the progress of a unit.
-/

namespace Vitae

/-- The files, the log and the request to stop. -/
structure Session where
  store : Store
  /-- What has been logged, in order. -/
  log : List LogEntry
  token : Token
  /-- Whether a request to stop has come from outside by the time of a poll. -/
  outside : Nat → Bool
  polls : Nat
  /-- Whether an interrupt from the keyboard would cancel the token. -/
  listening : Bool
  /-- How long a unit takes, in microseconds. -/
  elapsed : Kind → Nat

/-- What a single unit sees of a session. -/
structure Context where
  kind : Kind
  /-- Whether progress is logged. -/
  debug : Bool
  /-- Whether the request to stop is heeded. -/
  armed : Bool
deriving DecidableEq, Repr

namespace Session

/-- A session that begins with the given files. -/
def start (store : Store) : Session where
  store := store
  log := []
  token := .fresh
  outside := fun _ => false
  polls := 0
  listening := false
  elapsed := fun _ => 0

/-- Logs an entry. -/
def note (session : Session) (entry : LogEntry) : Session :=
  { session with log := session.log ++ [entry] }

/-- Logs several entries. -/
def noteAll (session : Session) (entries : List LogEntry) : Session :=
  { session with log := session.log ++ entries }

/-- Whether a unit should stop, and the session after it has asked. -/
def poll (session : Session) (context : Context) : Bool × Session :=
  (context.armed && (session.token.isCancelled || session.outside session.polls),
    { session with polls := session.polls + 1 })

/-- A note on the progress of a unit. -/
def progress (context : Context) (message : String) (fields : List (String × LogValue)) :
    LogEntry where
  level := .debug
  origin := [LogEntry.program, "render"]
  message := message
  fields := ("unit", .plain context.kind.code) :: fields

def enter (session : Session) (context : Context) (stage : Stage) : Session :=
  if context.debug then
    session.note (progress context "entering stage" [("stage", .plain stage.name)])
  else session

def trace (session : Session) (context : Context) (message : String) : Session :=
  if context.debug then session.note (progress context message []) else session

/-- An interrupt from the keyboard. If anyone listens for it, the token is
cancelled; no one does once it has been. -/
def interrupt (session : Session) : Session :=
  if session.listening && !session.token.isCancelled then
    { session.note
        { level := .info
          origin := [LogEntry.program, "dispatch", "dispatcher"]
          message := "Ctrl-C received; interrupting compilation"
          fields := [] } with
      token := session.token.cancel }
  else session

end Session

end Vitae
