import Vitae.CommandLine.Switch
import Vitae.Document.Personal
import Vitae.Files.Path
import Vitae.Number.Natural
import Vitae.Style.Options

/-!
# Settings

What the command line says, value by value and before anything is checked
against the files.

## Main definitions

* `UsageError`: Why a command line is not accepted.
* `Settings`: What the command line says.
* `Settings.standard`: The settings of an empty command line.
* `Settings.set`: Takes over the values of a switch.
-/

namespace Vitae

/-- Why a command line is not accepted. -/
inductive UsageError where
  /-- A switch that does not exist, or an argument that belongs to none. -/
  | unknownArgument
  /-- A value that is missing or that is none of those allowed. -/
  | invalidValue
  /-- A switch that can only be there once is there twice. -/
  | repeated
  /-- A value for a switch that takes none. -/
  | tooManyValues
  /-- A value that is not a number of the kind needed. -/
  | badNumber
  /-- A value that should be text and is not. -/
  | notText
  /-- The help was asked for. -/
  | helpRequested
deriving DecidableEq, Repr

namespace UsageError

/-- Why a command line is not accepted, in words. -/
def message : UsageError → String
  | .unknownArgument => "unexpected argument"
  | .invalidValue => "a value is missing or is not one of those allowed"
  | .repeated => "a switch is given more than once"
  | .tooManyValues => "a value is given to a switch that takes none"
  | .badNumber => "a value is not a positive number"
  | .notText => "a value is not text"
  | .helpRequested => "help was asked for"

/-- The exit status. To ask for help is not a mistake. -/
def exitStatus : UsageError → Nat
  | .helpRequested => 0
  | _ => 2

end UsageError

/-- What the command line says. -/
structure Settings where
  version : Bool
  update : Bool
  cvSource : Option Path
  letterSource : Option Path
  personal : Personal
  color : Option String
  style : StyleFlags
  content : ContentFlags
  debug : Bool
  interrupt : Bool
  outputFolder : Path
  maxWorkers : Option Nat
  updateUrl : Option String
  backendFolder : Path
deriving DecidableEq, Repr

namespace Settings

def standard : Settings where
  version := false
  update := false
  cvSource := none
  letterSource := none
  personal := .blank
  color := none
  style := .standard
  content := .standard
  debug := false
  interrupt := false
  outputFolder := Path.ofText "."
  maxWorkers := none
  updateUrl := none
  backendFolder := Path.ofText ".json2pdf"

def textValue (value : Bytes) : Except UsageError String :=
  match Utf8.decode? value with
  | some text => .ok text
  | none => .error .notText

/-- A value that is a path. The empty path is none. -/
def pathValue (value : Bytes) : Except UsageError Path :=
  if value.isEmpty then .error .invalidValue else .ok ⟨value⟩

def countValue (value : Bytes) : Except UsageError Nat := do
  let text ← textValue value
  match Natural.parse? 64 text.toList with
  | none | some 0 => .error .badNumber
  | some n => .ok n

/-- A value that says whether something is on. -/
def truthValue (value : Bytes) : Except UsageError Bool :=
  if value = Utf8.encode "true" then .ok true
  else if value = Utf8.encode "false" then .ok false
  else .error .invalidValue

def only {α : Type} (read : Bytes → Except UsageError α) : List Bytes → Except UsageError α
  | [value] => read value
  | _ => .error .invalidValue

/-- Whether a toggle is on. It is if no value is given. -/
def toggled : List Bytes → Except UsageError Bool
  | [] => .ok true
  | values => only truthValue values

def set (settings : Settings) (switch : Switch) (values : List Bytes) :
    Except UsageError Settings := do
  let personal := settings.personal
  let style := settings.style
  let content := settings.content
  match switch with
  | .help => .error .helpRequested
  | .version => .ok { settings with version := true }
  | .update => .ok { settings with update := true }
  | .debug => .ok { settings with debug := true }
  | .interrupt => .ok { settings with interrupt := true }
  | .anon => .ok { settings with content := { content with anon := true } }
  | .bold => .ok { settings with content := { content with bold := true } }
  | .header => return { settings with style := { style with header := ← toggled values } }
  | .footer => return { settings with style := { style with footer := ← toggled values } }
  | .spaced => return { settings with style := { style with spaced := ← toggled values } }
  | .darken => return { settings with style := { style with darken := ← toggled values } }
  | .cvSource => return { settings with cvSource := some (← only pathValue values) }
  | .letterSource => return { settings with letterSource := some (← only pathValue values) }
  | .outputFolder => return { settings with outputFolder := ← only pathValue values }
  | .backendFolder => return { settings with backendFolder := ← only pathValue values }
  | .maxWorkers => return { settings with maxWorkers := some (← only countValue values) }
  | .updateUrl => return { settings with updateUrl := some (← only textValue values) }
  | .color => return { settings with color := some (← only textValue values) }
  | .titles =>
    let more ← values.mapM textValue
    return { settings with personal := { personal with titles := personal.titles ++ more } }
  | .name =>
    return { settings with personal := { personal with name := some (← only textValue values) } }
  | .address =>
    return { settings with
      personal := { personal with address := some (← only textValue values) } }
  | .mobile =>
    return { settings with personal := { personal with mobile := some (← only textValue values) } }
  | .email =>
    return { settings with personal := { personal with email := some (← only textValue values) } }
  | .linkedin =>
    return { settings with
      personal := { personal with linkedin := some (← only textValue values) } }
  | .github =>
    return { settings with personal := { personal with github := some (← only textValue values) } }
  | .website =>
    return { settings with
      personal := { personal with website := some (← only textValue values) } }

end Settings

end Vitae
