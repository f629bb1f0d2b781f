import Std.Time.Format
import Vitae.Program.Footprint

/-!
# The Program

The outermost layer. It looks at the files that a call asks about, lets the call
run on what it has seen, and then brings the disk in line with the outcome. A
file is written under another name first and then moved to its place, so that no
one ever finds half of it.

There is no network here: a release can be looked for but never be had.

## Main definitions

* `Disk.look`: Takes a path from the disk into a store.
* `Disk.settle`: Brings the disk in line with a store.
* `main`: The program.
-/

namespace Vitae

namespace Disk

/-- The name of a place on the disk. -/
def nameOf (place : Place) : String :=
  if place.isEmpty then "/" else Utf8.decodeLossy (place.flatMap (Path.slash :: ·))

/-- The place that a path leads to, as far as its text tells. -/
def placeOf (start : Place) (path : Path) : Place :=
  (Path.segments path.bytes).foldl
    (fun place segment =>
      if segment.isEmpty || segment == Path.dot then place
      else if segment == Path.dotDot then place.dropLast
      else place ++ [segment])
    (if path.isAbsolute then [] else start)

/-- What is on the disk at a place, if anything is. The contents of files are
read only if they are wanted. -/
def node? (place : Place) (wanted : Bool) : IO (Option Node) := do
  let here ← IO.currentDir
  let path := here / nameOf place
  try
    match (← path.metadata).type with
    | .dir => return some .folder
    | .file =>
      if wanted then return some (.file (← IO.FS.readBinFile path).toList)
      else return some (.file [])
    | _ => return some .device
  catch _ => return none

/-- Takes a path from the disk into a store, with the folders above it. -/
def look (store : Store) (path : Path) : IO Store := do
  let target := placeOf store.start path
  let mut store := store
  for n in [0:target.length + 1] do
    let place := target.take n
    if (store.node? place).isNone || n == target.length then
      match ← node? place (n == target.length) with
      | some node => store := store.put place node
      | none => pure ()
  return store

/-- Takes everything from the disk that a call asks about. Each time it is
known what some more files hold, and three times are enough: the file of
variables, the sources, and the item files. -/
def gather (arguments : List Bytes) (environment : Environment) (store : Store) : IO Store := do
  let mut store := store
  for _ in [0:3] do
    for path in footprint arguments environment store do
      store ← look store path
  return store

/-- Writes a file under another name and moves it to its place. -/
def writeFile (place : Place) (contents : Bytes) : IO Unit := do
  let name := nameOf place
  let draft := name ++ ".part"
  IO.FS.writeBinFile draft (ByteArray.mk contents.toArray)
  IO.FS.rename draft name

/-- Brings the disk in line with a store that has come from another one. -/
def settle (before after : Store) : IO Unit := do
  for (place, node) in after.nodes do
    if before.node? place != some node then
      match node with
      | .folder => IO.FS.createDirAll (nameOf place)
      | .file contents => writeFile place contents
      | .device => pure ()

end Disk

def knownVariables : List String :=
  filterVariable :: Switch.all.filterMap (·.spec.variableName)

/-- The values of the variables that the program knows. -/
def currentEnvironment : IO Environment := do
  let found ← knownVariables.filterMapM fun name => do
    return (← IO.getEnv name).map fun value => (name, Utf8.encode value)
  return ⟨found⟩

/-- The present moment, as it is recorded with a release. -/
def recordedMoment : IO String := do
  let now ← Std.Time.Timestamp.now
  return (Std.Time.DateTime.ofTimestampWithZone now .GMT).format "uuuu-MM-dd'T'HH:mm:ss'Z'"

/-- The present moment, as it is shown in the log. -/
def loggedMoment : IO String := do
  return (← Std.Time.PlainDateTime.now).format "uuuu-MM-dd HH:mm:ss.SSS"

def noReleases (_ : String) : ReleaseSource :=
  ⟨.error .http, fun _ => .error .http⟩

def Output.print (moment : String) : Output → IO Unit
  | .text words => IO.print words
  | .log entries =>
    for entry in entries do
      IO.println ("[" ++ moment ++ "] " ++ entry.text)

def emptyStore (start : Place) : Store :=
  ⟨[([], .folder)], start, [], fun _ => none⟩

end Vitae

open Vitae in
def main (arguments : List String) : IO UInt32 := do
  let arguments := (LogEntry.program :: arguments).map Utf8.encode
  let environment ← currentEnvironment
  let here := Path.ofText (toString (← IO.currentDir))
  let start := Disk.placeOf [] here
  let store ← Disk.look (emptyStore start) here
  let store ← Disk.gather arguments environment store
  let outcome :=
    launch noReleases (← recordedMoment) arguments environment (Session.start store)
  Disk.settle store outcome.store
  outcome.output.print (← loggedMoment)
  match outcome.complaint with
  | some words => IO.eprintln ("error: " ++ words)
  | none => pure ()
  return outcome.status.toUInt32
