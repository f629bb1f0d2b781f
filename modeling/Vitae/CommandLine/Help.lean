import Vitae.CommandLine.Environment
import Vitae.CommandLine.Switch
import Vitae.Terminal.Control

/-!
# Help

The help lists every switch with its purpose, one on a line. The purposes stand
below each other. Behind a purpose follow the variable that stands in for the
switch, with its present value, the standard value, and the values allowed. A
value that goes on over several lines goes on below the purposes.

Headings and switches are in bold face if the environment asks for it. Otherwise
there is no control sequence in the help at all, not even one that comes from the
value of a variable.

## Main definitions

* `Help.usage`: How a switch is written.
* `Help.styled`: The help with control sequences.
* `Help.isStyled`: Whether the environment asks for them.
* `Help.text`: The help.
-/

namespace Vitae

namespace Help

/-- How the values of a switch are shown. -/
def valueText (spec : SwitchSpec) : String :=
  match spec.arity with
  | .flag => ""
  | .toggle => " [<" ++ spec.value ++ ">]"
  | .single => " <" ++ spec.value ++ ">"
  | .several => " <" ++ spec.value ++ ">..."

/-- How a switch is written. The names are put as the first argument says. -/
def usage (put : String → String) (spec : SwitchSpec) : String :=
  let short :=
    match spec.short with
    | some letter => put ("-" ++ String.singleton letter) ++ ", "
    | none => "    "
  "  " ++ short ++ put ("--" ++ spec.long) ++ valueText spec

/-- How wide a switch is. -/
def usageWidth (spec : SwitchSpec) : Nat := (usage id spec).length

/-- How wide the widest switch is. -/
def width : Nat :=
  (Switch.all.map fun switch => usageWidth switch.spec).foldl max 0

def spaces (n : Nat) : String := String.ofList (List.replicate n ' ')

/-- How far the purposes are from the edge. -/
def margin : Nat := width + 2

/-- The character that goes on below the purposes, if it ends a line. -/
def indentChar (c : Char) : List Char :=
  if c = '\n' then '\n' :: List.replicate margin ' ' else [c]

/-- A text whose lines go on below the purposes. -/
def indented (text : String) : String :=
  String.ofList (text.toList.flatMap indentChar)

/-- What is added to the purpose of a switch. -/
def notes (environment : Environment) (spec : SwitchSpec) : List String :=
  let replacement := spec.variableName.toList.map fun name =>
    "[env: " ++ name ++ "=" ++ Utf8.decodeLossy ((environment.get? name).getD []) ++ "]"
  let standard := spec.standard.toList.map fun value => "[default: " ++ value ++ "]"
  let allowed := if spec.arity = .toggle then ["[possible values: true, false]"] else []
  replacement ++ standard ++ allowed

def line (environment : Environment) (switch : Switch) : String :=
  let spec := switch.spec
  usage Terminal.bold spec ++ spaces (margin - usageWidth spec) ++
    indented (" ".intercalate (spec.purpose :: notes environment spec))

def styled (environment : Environment) : String :=
  "Converts JSON resume and cover-letter data into PDF documents\n\n" ++
    Terminal.heading "Usage:" ++ " " ++ Terminal.bold "json2pdf" ++ " [OPTIONS]\n\n" ++
    Terminal.heading "Options:" ++ "\n" ++
    String.join (Switch.all.map fun switch => line environment switch ++ "\n")

/-- Whether a variable has a value other than the empty one. -/
def isSet (environment : Environment) (name : String) : Bool :=
  match environment.get? name with
  | some value => !value.isEmpty
  | none => false

/-- Whether the environment asks for control sequences where no terminal is. -/
def isStyled (environment : Environment) : Bool :=
  isSet environment "CLICOLOR_FORCE" && !isSet environment "NO_COLOR"

def text (environment : Environment) : String :=
  if isStyled environment then styled environment else Terminal.plain (styled environment)

end Help

end Vitae
