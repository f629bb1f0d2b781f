import Vitae.CommandLine.Arguments
import Vitae.CommandLine.Help
import Vitae.CommandLine.VariableFile
import Vitae.Log.Filter
import Vitae.Program.Config
import Vitae.Release.Update

/-!
# Runs

A run checks its settings, looks for an update if it was asked to, compiles the
documents and reports on them. If the settings are refused or the update fails,
nothing is compiled.

Around it stands the program as one calls it: it takes the variables from the
file of variables and the settings from the command line, and shows what its
filter lets through.

## Main definitions

* `StartFailure`: Why nothing is compiled.
* `run`: A run with given settings.
* `Outcome`: What a call of the program leaves behind.
* `launch`: A call of the program.
-/

namespace Vitae

/-- Why nothing is compiled. -/
inductive StartFailure where
  | options (error : ConfigError)
  | update (error : UpdateError)

namespace StartFailure

/-- What lies behind a failed update, in words. -/
def causes : UpdateError → List String
  | .manifest fault => [fault.message]
  | .refused refusal => [refusal.message]
  | _ => []

/-- Why nothing is compiled, in words, with everything that lies behind it. -/
def message : StartFailure → String
  | .options error => "invalid command-line options: " ++ error.message
  | .update error => ": ".intercalate ("update check failed" :: error.message :: causes error)

end StartFailure

/-- An entry about a run as a whole. -/
def runEntry (level : Level) (message : String) : LogEntry where
  level := level
  origin := [LogEntry.program]
  message := message
  fields := []

def UpdateStatus.message : UpdateStatus → String
  | .upToDate version => "json2pdf backend " ++ version.text ++ " is current"
  | .installed version path =>
    "installed json2pdf backend " ++ version.text ++ " at " ++ path.display

/-- Looks for an update if the configuration asks for it. The releases come from
the source for the address of the manifest. -/
def checkUpdate (sourceAt : String → ReleaseSource) (now : String) (config : Config)
    (session : Session) : Except UpdateError Unit × Session :=
  if !config.update then (.ok (), session)
  else
    match config.updateUrl with
    | none => (.error .notConfigured, session)
    | some url =>
      let updater : Updater := ⟨sourceAt url, config.backendFolder⟩
      let cancelled (_ : Wait) : Bool := session.token.isCancelled
      let (result, state) := updater.update cancelled now Pdf.programVersion ⟨session, []⟩
      match result with
      | .error error => (.error error, state.session)
      | .ok status => (.ok (), state.session.note (runEntry .info status.message))

def compileAll (config : Config) (session : Session) : Results × Session :=
  let (_, batch, session) :=
    (Batch.new (Backend.document PageConfig.standard)).submit config.order session
  let (batch, session) := batch.join session
  (batch.results,
    session.noteAll (batch.results.toList.map fun report => runEntry .info report.summary))

/-- A run with given settings: the exit status, or why nothing is compiled. -/
def run (sourceAt : String → ReleaseSource) (now : String) (settings : Settings)
    (session : Session) : Except StartFailure Nat × Session :=
  match Config.ofSettings session.store settings with
  | .error error => (.error (.options error), session)
  | .ok config =>
    let session := { session with listening := session.listening || config.interrupt }
    match checkUpdate sourceAt now config session with
    | (.error error, session) => (.error (.update error), session)
    | (.ok (), session) =>
      let (results, session) := compileAll config session
      (.ok results.exitCode, session)

/-- What a program prints. -/
inductive Output where
  | text (text : String)
  | log (entries : List LogEntry)

/-- What a call of the program leaves behind. -/
structure Outcome where
  output : Output
  /-- What is said about a command line that is not accepted. -/
  complaint : Option String
  status : Nat
  store : Store

/-- The exit status of a run that could not start. -/
def startFailureStatus : Nat := 2

/-- The exit status of a call that breaks down before it has begun. -/
def breakdownStatus : Nat := 101

/-- A call that breaks down before it has begun. -/
def breakdown (words : String) (session : Session) : Outcome :=
  ⟨.text "", some words, breakdownStatus, session.store⟩

/-- The variable that holds the filter of the log. -/
def filterVariable : String := "RUST_LOG"

/-- A call with settings that ask for a run. -/
def launchRun (sourceAt : String → ReleaseSource) (now : String) (environment : Environment)
    (settings : Settings) (session : Session) : Outcome :=
  match LogFilter.choose (environment.text? filterVariable) settings.debug with
  | none => breakdown (filterVariable ++ " cannot be read") session
  | some filter =>
    let (result, session) :=
      run sourceAt now settings (session.note (runEntry .info "Initialized logger"))
    match result with
    | .ok status => ⟨.log (filter.apply session.log), none, status, session.store⟩
    | .error failure =>
      let session := session.note (runEntry .error failure.message)
      ⟨.log (filter.apply session.log), none, startFailureStatus, session.store⟩

/-- A call in an environment that is complete. -/
def launchIn (environment : Environment) (sourceAt : String → ReleaseSource) (now : String)
    (arguments : List Bytes) (session : Session) : Outcome :=
  match Settings.ofArguments environment (spellOutAll arguments) with
  | .error .helpRequested =>
    ⟨.text (Help.text environment), none, UsageError.helpRequested.exitStatus, session.store⟩
  | .error error => ⟨.text "", some error.message, error.exitStatus, session.store⟩
  | .ok settings =>
    if settings.version then
      ⟨.text (LogEntry.program ++ " " ++ Pdf.programVersion ++ "\n"), none, 0, session.store⟩
    else launchRun sourceAt now environment settings session

/-- A call of the program. The first argument is its name. -/
def launch (sourceAt : String → ReleaseSource) (now : String) (arguments : List Bytes)
    (environment : Environment) (session : Session) : Outcome :=
  match VariableFile.read session.store environment with
  | .error unfit => breakdown (unfit.name ++ " cannot have its value") session
  | .ok environment => launchIn environment sourceAt now arguments session

end Vitae
