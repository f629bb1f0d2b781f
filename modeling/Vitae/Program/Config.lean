import Vitae.CommandLine.Settings
import Vitae.Compile.Batch
import Vitae.Text.Quoted

/-!
# Configurations

The settings of a run after they have been checked. The sources are not opened
here: one that is missing is the concern of its own unit and must not keep the
other from being compiled.

## Main definitions

* `Config`: The configuration of a run.
* `Config.ofSettings`: Checks settings against the files.
* `Config.sources`: The sources, in order of reporting.
* `Config.order`: What is submitted to a batch.
-/

namespace Vitae

/-- The configuration of a run. -/
structure Config where
  cvSource : Option Path
  letterSource : Option Path
  options : Options
  debug : Bool
  interrupt : Bool
  update : Bool
  outputFolder : Path
  maxWorkers : Option Nat
  updateUrl : Option String
  backendFolder : Path
deriving DecidableEq, Repr

namespace Config

/-- A text without the blanks around it, if anything is left. -/
def nonBlank (text : String) : Option String :=
  let trimmed := Text.trim text
  if trimmed.isEmpty then none else some trimmed

/-- Personal details without the blank ones. -/
def tidy (personal : Personal) : Personal where
  name := personal.name.bind nonBlank
  titles := personal.titles.filterMap nonBlank
  address := personal.address.bind nonBlank
  mobile := personal.mobile.bind nonBlank
  email := personal.email.bind nonBlank
  linkedin := personal.linkedin.bind nonBlank
  github := personal.github.bind nonBlank
  website := personal.website.bind nonBlank

def checkColor : Option String → Except ConfigError (Option Rgb)
  | none => .ok none
  | some text =>
    match Rgb.parse text with
    | .ok color => .ok (some color)
    | .error bad => .error (.invalidOption "color" bad.message)

/-- Whether two paths lead to one file: they are made of the same parts, or both
exist and are the same. -/
def sameFile (store : Store) (p q : Path) : Bool :=
  p.sameParts q || store.samePlace p q

/-- The two documents need sources of their own. -/
def checkSources (store : Store) : Option Path → Option Path → Except ConfigError Unit
  | some cv, some letter =>
    if sameFile store cv letter then
      .error (.conflict ("--cvjson and --cljson both point at " ++ cv.display))
    else .ok ()
  | _, _ => .ok ()

/-- The folder for the documents must not be a file. It need not exist. -/
def checkFolder (store : Store) (folder : Path) : Except ConfigError Unit :=
  if store.isFile folder then
    .error (.invalidOption "output-dir" (folder.display ++ " is a file, not a directory"))
  else .ok ()

/-- The addresses that a manifest can be fetched from begin with one of
these. -/
def schemes : List String := ["http://", "https://"]

/-- The address of the manifest. A blank one counts as none. -/
def checkUrl (text : Option String) : Except ConfigError (Option String) :=
  match text.bind nonBlank with
  | none => .ok none
  | some url =>
    if schemes.any fun scheme => scheme.toList.isPrefixOf url.toList then .ok (some url)
    else
      .error (.invalidOption "update-url" ("expected an http(s) URL, got " ++ Text.quoted url))

def ofSettings (store : Store) (settings : Settings) : Except ConfigError Config := do
  let color ← checkColor settings.color
  checkSources store settings.cvSource settings.letterSource
  checkFolder store settings.outputFolder
  let url ← checkUrl settings.updateUrl
  return {
    cvSource := settings.cvSource
    letterSource := settings.letterSource
    options := ⟨settings.style, settings.content, color, tidy settings.personal⟩
    debug := settings.debug
    interrupt := settings.interrupt
    update := settings.update
    outputFolder := settings.outputFolder
    maxWorkers := settings.maxWorkers
    updateUrl := url
    backendFolder := settings.backendFolder }

def source? (config : Config) : Kind → Option Path
  | .cv => config.cvSource
  | .coverLetter => config.letterSource

def sources (config : Config) : List (Kind × Path) :=
  Kind.all.filterMap fun kind => (config.source? kind).map (kind, ·)

/-- Where a document is written to. -/
def outputPath (config : Config) (kind : Kind) : Path :=
  config.outputFolder.join (Path.ofText kind.fileName)

def units (config : Config) : List WorkUnit :=
  config.sources.map fun (kind, source) =>
    WorkUnit.new kind source (config.outputPath kind) config.options

def order (config : Config) : Order where
  units := config.units
  debug := config.debug
  interrupt := config.interrupt
  maxWorkers := config.maxWorkers

end Config

end Vitae
