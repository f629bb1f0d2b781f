/-!
# Switches

The switches of the command line: how each is written, how many values it
takes, and what the help says about it.

## Main definitions

* `Switch`: A switch.
* `Arity`: How many values a switch takes.
* `Switch.spec`: How a switch is written and described.
* `Switch.ofLong?`, `Switch.ofShort?`: The switch of a name.

## Theorems

* `Switch.mem_all`: Every switch is listed.
-/

namespace Vitae

/-- A switch of the command line. -/
inductive Switch where
  | version
  | update
  | cvSource
  | letterSource
  | name
  | titles
  | address
  | mobile
  | email
  | linkedin
  | github
  | color
  | website
  | header
  | footer
  | spaced
  | darken
  | anon
  | bold
  | debug
  | interrupt
  | outputFolder
  | maxWorkers
  | updateUrl
  | backendFolder
  | help
deriving DecidableEq, Repr

/-- How many values a switch takes. -/
inductive Arity where
  /-- None: it is on if it is there. -/
  | flag
  /-- None or one: it is on unless the value says otherwise. -/
  | toggle
  /-- Exactly one. -/
  | single
  /-- One or more. The switch can be repeated. -/
  | several
deriving DecidableEq, Repr

namespace Arity

/-- Whether values belong to a switch at all. -/
def takesValues : Arity → Bool
  | .flag => false
  | _ => true

/-- Whether a switch that has some values can take one more. -/
def takesMore (arity : Arity) (count : Nat) : Bool :=
  match arity with
  | .flag => false
  | .toggle | .single => count == 0
  | .several => true

/-- Whether a switch with some values still lacks one. -/
def lacksValue (arity : Arity) (count : Nat) : Bool :=
  match arity with
  | .flag | .toggle => false
  | .single | .several => count == 0

end Arity

/-- How a switch is written and described. -/
structure SwitchSpec where
  /-- The name behind two dashes. -/
  long : String
  /-- The letter behind one dash. -/
  short : Option Char := none
  arity : Arity := .flag
  value : String := ""
  /-- The variable of the environment that stands in for it. -/
  variableName : Option String := none
  /-- The value it has if none is given. -/
  standard : Option String := none
  /-- What it is for. -/
  purpose : String := ""
deriving Repr

namespace Switch

def all : List Switch :=
  [.version, .update, .cvSource, .letterSource, .name, .titles, .address, .mobile, .email,
    .linkedin, .github, .color, .website, .header, .footer, .spaced, .darken, .anon, .bold,
    .debug, .interrupt, .outputFolder, .maxWorkers, .updateUrl, .backendFolder, .help]

theorem mem_all (switch : Switch) : switch ∈ all := by
  cases switch <;> decide

/-- A switch that shows a part of the document unless it is turned off. -/
def toggleSpec (long value purpose : String) : SwitchSpec :=
  { long := long, arity := .toggle, value := value, standard := some "true", purpose := purpose }

def detailSpec (long : String) (short : Char) (value : String) : SwitchSpec :=
  { long := long, short := some short, arity := .single, value := value }

def spec : Switch → SwitchSpec
  | .version =>
    { long := "version", short := some 'v', purpose := "Display current version" }
  | .update =>
    { long := "update", short := some 'u'
      purpose := "Check for backend updates before compiling" }
  | .cvSource =>
    { long := "cvjson", arity := .single, value := "PATH"
      purpose := "Path to the CV JSON (also -cv)" }
  | .letterSource =>
    { long := "cljson", arity := .single, value := "PATH"
      purpose := "Path to the cover-letter JSON (also -cl)" }
  | .name => detailSpec "name" 'n' "NAME"
  | .titles =>
    { long := "titles", short := some 't', arity := .several, value := "TITLES"
      purpose := "One or more titles shown under the name" }
  | .address => detailSpec "address" 'a' "ADDRESS"
  | .mobile => detailSpec "mobile" 'm' "MOBILE"
  | .email => detailSpec "email" 'e' "EMAIL"
  | .linkedin => detailSpec "linkedin" 'l' "LINKEDIN"
  | .github => detailSpec "github" 'g' "GITHUB"
  | .color =>
    { long := "color", short := some 'c', arity := .single, value := "COLOR"
      purpose := "Accent color: #rgb, #rrggbb or a name such as navy or teal" }
  | .website => detailSpec "website" 'w' "WEBSITE"
  | .header => toggleSpec "header" "HEADER" "Enables the document header"
  | .footer => toggleSpec "footer" "FOOTER" "Enables the document footer"
  | .spaced => toggleSpec "spaced" "SPACED" "Spaces document elements"
  | .darken => toggleSpec "darken" "DARKEN" "Darkens document elements"
  | .anon => { long := "anon", purpose := "Anonymize during compilation" }
  | .bold => { long := "bold", purpose := "Bolden during compilation" }
  | .debug => { long := "debug", purpose := "Log every compilation stage" }
  | .interrupt =>
    { long := "interrupt", purpose := "Allow Ctrl-C to interrupt in-flight compilation" }
  | .outputFolder =>
    { long := "output-dir", short := some 'o', arity := .single, value := "OUTPUT_DIR"
      variableName := some "JSON2PDF_OUTPUT_DIR", standard := some "."
      purpose := "Directory the PDFs are written to" }
  | .maxWorkers =>
    { long := "max-workers", arity := .single, value := "MAX_WORKERS"
      variableName := some "JSON2PDF_MAX_WORKERS"
      purpose := "Upper bound on concurrently compiled documents" }
  | .updateUrl =>
    { long := "update-url", arity := .single, value := "UPDATE_URL"
      variableName := some "JSON2PDF_UPDATE_URL"
      purpose := "Release manifest consulted by --update" }
  | .backendFolder =>
    { long := "backend-dir", arity := .single, value := "BACKEND_DIR"
      variableName := some "JSON2PDF_BACKEND_DIR", standard := some ".json2pdf"
      purpose := "Where fetched backends are installed" }
  | .help => { long := "help", short := some 'h', purpose := "Print help" }

/-- How many values a switch takes. -/
def arity (switch : Switch) : Arity := switch.spec.arity

def ofLong? (name : String) : Option Switch :=
  all.find? fun switch => switch.spec.long == name

def ofShort? (letter : Char) : Option Switch :=
  all.find? fun switch => switch.spec.short == some letter

end Switch

end Vitae
