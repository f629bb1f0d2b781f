import Vitae.Compile.Session
import Vitae.Release.Manifest

/-!
# Updates

A newer release replaces an older one: newer than the program that is running
and than what was installed before. The artifact is written first and the record
after it, each in one step, so the record never speaks of an artifact that is
not there.

An update can be interrupted before it begins and whenever it waits for the
source of releases. It then leaves no trace.

## Main definitions

* `UpdateError`: Why there is no update.
* `ReleaseSource`: Where releases come from.
* `Updater`: A source, and the folder that releases are installed in.
* `Updater.installedVersion`: The version recorded by the last update.
* `Updater.install`: Puts a release into the folder.
* `Updater.update`: Looks for a newer release and installs it.
-/

namespace Vitae

/-- Why there is no update. -/
inductive UpdateError where
  /-- No one said where the manifest is. -/
  | notConfigured
  /-- The source could not be reached. -/
  | http
  /-- The source has answered with a status other than success. -/
  | api (status : Nat) (answer : String)
  /-- The manifest or the record is not what it should be. -/
  | manifest (fault : Json.Fault)
  | invalidVersion (text : String)
  | refused (refusal : Refusal)
  | interrupted

def UpdateError.message : UpdateError → String
  | .notConfigured => "update requested but no release manifest URL is configured"
  | .http => "HTTP error"
  | .api status answer => "release server returned status " ++ toString status ++ ": " ++ answer
  | .manifest fault => "invalid release manifest: " ++ fault.message
  | .invalidVersion text => "invalid version identifier: " ++ Text.quoted text
  | .refused refusal => "I/O error: " ++ refusal.message
  | .interrupted => "update interrupted before it finished"

/-- Where releases come from. -/
structure ReleaseSource where
  latest : Except UpdateError Manifest
  fetch : Manifest → Except UpdateError Bytes

/-- The moments at which an update can be interrupted. -/
inductive Wait where
  /-- Before anything is done. -/
  | start
  /-- While it waits for the manifest. -/
  | manifest
  /-- While it waits for the artifact. -/
  | artifact
deriving DecidableEq, Repr

/-- How an update ends when it does not fail. -/
inductive UpdateStatus where
  | upToDate (version : Version)
  | installed (version : Version) (path : Path)
deriving DecidableEq, Repr

/-- A source, and the folder that releases are installed in. -/
structure Updater where
  source : ReleaseSource
  folder : Path

/-- The state of an update: the session, and the addresses that have been
fetched from. -/
structure UpdateRun where
  session : Session
  requests : List String

namespace Updater

def readVersion (text : String) : Except UpdateError Version :=
  match Version.parse? text with
  | some version => .ok version
  | none => .error (.invalidVersion text)

def recordName : String := "installed.json"

def recordPath (updater : Updater) : Path :=
  updater.folder.join (Path.ofText recordName)

/-- The path of the artifact of a version. -/
def artifactPath (updater : Updater) (version : Version) : Path :=
  updater.folder.join (Path.ofText ("json2pdf-backend-" ++ version.text))

/-- The version recorded by the last update, if there was one. -/
def installedVersion (updater : Updater) (store : Store) :
    Except UpdateError (Option Version) :=
  match store.read updater.recordPath with
  | .error .notThere => .ok none
  | .error refusal => .error (.refused refusal)
  | .ok contents =>
    match Installed.parse contents with
    | .error fault => .error (.manifest fault)
    | .ok record => (readVersion record.version).map some

/-- Writes the record of a version whose artifact is in place. -/
def writeRecord (updater : Updater) (version : Version) (now : String) (store : Store) :
    Except UpdateError Path × Store :=
  let path := updater.artifactPath version
  match Utf8.decode? path.bytes with
  | none => (.error (.manifest (.refused "path contains invalid UTF-8 characters")), store)
  | some artifact =>
    let record : Installed := ⟨version.text, artifact, now⟩
    match store.replaceFile updater.folder updater.recordPath (Utf8.encode record.text) with
    | (.error refusal, store) => (.error (.refused refusal), store)
    | (.ok (), store) => (.ok path, store)

def install (updater : Updater) (version : Version) (artifact : Bytes) (now : String)
    (store : Store) : Except UpdateError Path × Store :=
  match store.makeFolders updater.folder with
  | (.error refusal, store) => (.error (.refused refusal), store)
  | (.ok (), store) =>
    match store.replaceFile updater.folder (updater.artifactPath version) artifact with
    | (.error refusal, store) => (.error (.refused refusal), store)
    | (.ok (), store) => updater.writeRecord version now store

def entry (level : Level) (message : String) (fields : List (String × LogValue)) : LogEntry where
  level := level
  origin := [LogEntry.program, "update"]
  message := message
  fields := fields

/-- The version that a release must exceed: the one that is running or the one
that was installed, whichever is later. -/
def baseline (updater : Updater) (current : String) (store : Store) :
    Except UpdateError Version := do
  let current ← readVersion current
  match ← updater.installedVersion store with
  | some installed => .ok (installed.max current)
  | none => .ok current

/-- Ends an update because it was interrupted. -/
def stop (run : UpdateRun) : Except UpdateError UpdateStatus × UpdateRun :=
  (.error .interrupted,
    { run with session := run.session.note (entry .warning "update check interrupted" []) })

/-- Logs an entry. -/
def note (run : UpdateRun) (e : LogEntry) : UpdateRun :=
  { run with session := run.session.note e }

/-- Logs that a release has been installed, with the notes on it. -/
def announce (version : Version) (notes : Option String) (path : Path) (size : Nat)
    (run : UpdateRun) : UpdateRun :=
  let run :=
    match notes with
    | some notes =>
      note run (entry .info ("release notes: " ++ notes) [("version", .plain version.text)])
    | none => run
  note run (entry .info "backend update installed"
    [("version", .plain version.text), ("path", .plain path.display),
      ("bytes", .number size)])

/-- Fetches a release and installs it. -/
def download (updater : Updater) (cancelled : Wait → Bool) (now : String) (manifest : Manifest)
    (version : Version) (run : UpdateRun) : Except UpdateError UpdateStatus × UpdateRun :=
  let run := { run with requests := run.requests ++ [manifest.url] }
  if cancelled .artifact then stop run
  else
    match updater.source.fetch manifest with
    | .error error => (.error error, run)
    | .ok artifact =>
      match updater.install version artifact now run.session.store with
      | (.error error, store) =>
        (.error error, { run with session := { run.session with store := store } })
      | (.ok path, store) =>
        (.ok (.installed version path),
          announce version manifest.notes path artifact.length
            { run with session := { run.session with store := store } })

/-- Compares the latest release with the baseline and installs it if it is
newer. -/
def consider (updater : Updater) (cancelled : Wait → Bool) (now : String) (baseline : Version)
    (manifest : Manifest) (run : UpdateRun) : Except UpdateError UpdateStatus × UpdateRun :=
  match readVersion manifest.version with
  | .error error => (.error error, run)
  | .ok latest =>
    let run := note run (entry .debug "checked release manifest"
      [("current", .plain baseline.text), ("latest", .plain latest.text)])
    if latest.le baseline then
      (.ok (.upToDate baseline),
        note run (entry .info "backend is up to date" [("version", .plain baseline.text)]))
    else
      updater.download cancelled now manifest latest
        (note run (entry .info "downloading backend update"
          [("from", .plain baseline.text), ("to", .plain latest.text)]))

/-- Looks for a release that is newer than the given version and than the one
installed, and installs it. -/
def update (updater : Updater) (cancelled : Wait → Bool) (now : String) (current : String)
    (run : UpdateRun) : Except UpdateError UpdateStatus × UpdateRun :=
  if cancelled .start then stop run
  else
    match updater.baseline current run.session.store with
    | .error error => (.error error, run)
    | .ok baseline =>
      if cancelled .manifest then stop run
      else
        match updater.source.latest with
        | .error error => (.error error, run)
        | .ok manifest => updater.consider cancelled now baseline manifest run

end Updater

end Vitae
