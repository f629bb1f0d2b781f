import Vitae.CommandLine.Abbreviation
import Vitae.CommandLine.Environment
import Vitae.CommandLine.Settings

/-!
# Arguments

The command line is read from left to right. A switch that expects values waits
for them: its values are taken over only when the next switch, or the end of the
line, shows that they are complete. So an argument that is not known is found
before a bad value in front of it, but a bad value before a switch that follows.

Behind two dashes there are no switches any more, and since no argument stands
on its own, nothing at all.

## Main definitions

* `ArgumentShape`: What an argument looks like.
* `Scan`: What has been read so far.
* `Scan.accept`: Takes over a switch with its values.
* `Scan.settle`: Takes over the switch that is waiting.
* `Settings.ofArguments`: The settings that arguments and environment ask for.
-/

namespace Vitae

/-- What an argument looks like. -/
inductive ArgumentShape where
  /-- Two dashes, which end the switches. -/
  | stop
  /-- A name behind two dashes, with a value behind an equals sign. -/
  | long (name : Bytes) (value : Option Bytes)
  /-- Letters behind one dash. -/
  | cluster (letters : Bytes)
  /-- Anything else, a single dash included. -/
  | bare
deriving DecidableEq, Repr

namespace ArgumentShape

def dash : UInt8 := 0x2D

/-- A name, and the value behind the first equals sign if there is one. -/
def splitValue (body : Bytes) : ArgumentShape :=
  let name := body.takeWhile (· != Abbreviation.equals)
  match body.drop name.length with
  | [] => .long name none
  | _ :: value => .long name (some value)

/-- What an argument looks like. -/
def of (argument : Bytes) : ArgumentShape :=
  match argument with
  | [] => .bare
  | first :: rest =>
    if first != dash then .bare
    else
      match rest with
      | [] => .bare
      | second :: body =>
        if second != dash then .cluster rest
        else if body.isEmpty then .stop
        else splitValue body

end ArgumentShape

/-- What has been read so far. -/
structure Scan where
  settings : Settings
  /-- The switches whose values have been taken over. -/
  seen : List Switch
  /-- The switch that is waiting, with the values it has got. -/
  waiting : Option (Switch × List Bytes)

namespace Scan

/-- Nothing has been read. -/
def start : Scan := ⟨.standard, [], none⟩

def accept (scan : Scan) (switch : Switch) (values : List Bytes) : Except UsageError Scan :=
  if switch.arity.lacksValue values.length then .error .invalidValue
  else if switch.arity != .several && scan.seen.contains switch then .error .repeated
  else do
    let settings ← scan.settings.set switch values
    return { scan with settings := settings, seen := switch :: scan.seen }

def settle (scan : Scan) : Except UsageError Scan :=
  match scan.waiting with
  | none => .ok scan
  | some (switch, values) => { scan with waiting := none }.accept switch values

/-- Takes over a switch that is complete, after the one that is waiting. -/
def complete (scan : Scan) (switch : Switch) (values : List Bytes) : Except UsageError Scan := do
  (← scan.settle).accept switch values

/-- Lets a switch wait for its values, after the one that is waiting. -/
def await (scan : Scan) (switch : Switch) : Except UsageError Scan := do
  return { ← scan.settle with waiting := some (switch, []) }

def readLong (scan : Scan) (name : Bytes) (value : Option Bytes) : Except UsageError Scan :=
  match (Utf8.decode? name).bind Switch.ofLong? with
  | none => .error .unknownArgument
  | some switch =>
    match switch.arity.takesValues, value with
    | true, some value => scan.complete switch [value]
    | true, none => scan.await switch
    | false, some _ => .error .tooManyValues
    | false, none => scan.complete switch []

/-- The value that stands directly behind a letter, without an equals sign in
front of it. -/
def attached : Bytes → Bytes
  | [] => []
  | first :: rest => if first = Abbreviation.equals then rest else first :: rest

/-- Reads letters behind one dash. The first letter that takes a value takes
what is left. -/
def readCluster (scan : Scan) : Bytes → Except UsageError Scan
  | [] => .ok scan
  | letter :: rest =>
    match Switch.ofShort? (Char.ofNat letter.toNat) with
    | none => .error .unknownArgument
    | some switch =>
      if switch.arity.takesValues then
        if rest.isEmpty then scan.await switch else scan.complete switch [attached rest]
      else do readCluster (← scan.complete switch []) rest

/-- Reads an argument that is not a switch. It belongs to the switch that is
waiting, if that one can take more. -/
def readBare (scan : Scan) (argument : Bytes) : Except UsageError Scan :=
  match scan.waiting with
  | none => .error .unknownArgument
  | some (switch, values) =>
    if switch.arity.takesMore values.length then
      .ok { scan with waiting := some (switch, values ++ [argument]) }
    else .error .unknownArgument

def readAll (scan : Scan) : List Bytes → Except UsageError Scan
  | [] => scan.settle
  | argument :: rest =>
    match ArgumentShape.of argument with
    | .stop => if rest.isEmpty then scan.settle else .error .unknownArgument
    | .long name value => do readAll (← scan.readLong name value) rest
    | .cluster letters => do readAll (← scan.readCluster letters) rest
    | .bare => do readAll (← scan.readBare argument) rest

/-- Looks into the environment for a switch that the command line leaves
out. -/
def consult (environment : Environment) (scan : Scan) (switch : Switch) :
    Except UsageError Scan :=
  if scan.seen.contains switch then .ok scan
  else
    match switch.spec.variableName.bind environment.get? with
    | none => .ok scan
    | some value => scan.accept switch [value]

end Scan

/-- The settings that arguments and environment ask for. The first argument is
the name of the program. -/
def Settings.ofArguments (environment : Environment) (arguments : List Bytes) :
    Except UsageError Settings := do
  let scan ← Scan.start.readAll (arguments.drop 1)
  let scan ← Switch.all.foldlM (Scan.consult environment) scan
  return scan.settings

end Vitae
