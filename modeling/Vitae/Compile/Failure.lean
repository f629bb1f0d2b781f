import Vitae.Files.Path
import Vitae.Files.Refusal
import Vitae.Json.Fault

/-!
# Failures

Why a document is not compiled. Either its source cannot be used, or turning it
into a file has failed, or whatever was to do so has crashed.

## Main definitions

* `ConfigError`: An input of the user that cannot be used.
* `RenderError`: Why a source has not become a file.
* `UnitError`: Why a unit has failed.
* `UnitError.code`: The class of a failure, for use by programs.
-/

namespace Vitae

/-- An input of the user that cannot be used. -/
inductive ConfigError where
  /-- A source that is not there. -/
  | missingSource (path : Path)
  /-- A source that is no file. -/
  | notAFile (path : Path)
  /-- A source that cannot be opened. -/
  | unreadableSource (path : Path) (refusal : Refusal)
  /-- A value that its option does not take. -/
  | invalidOption (option : String) (reason : String)
  /-- Options that do not go together. -/
  | conflict (reason : String)
deriving DecidableEq, Repr

/-- What is wrong with an input, in words. -/
def ConfigError.message : ConfigError → String
  | .missingSource path => "source file not found: " ++ path.display
  | .notAFile path => "source is not a regular file: " ++ path.display
  | .unreadableSource path refusal =>
    "source file is not readable: " ++ path.display ++ ": " ++ refusal.message
  | .invalidOption option reason => "invalid value for --" ++ option ++ ": " ++ reason
  | .conflict reason => "conflicting options: " ++ reason

/-- Why a source has not become a file. -/
inductive RenderError where
  /-- The source is not JSON of the right form. -/
  | malformed (path : Path) (fault : Json.Fault)
  /-- The source has problems, given in words. -/
  | invalid (problems : List String)
  /-- An operation on files was refused. -/
  | refused (refusal : Refusal)

/-- Why a source has not become a file, in words. -/
def RenderError.message : RenderError → String
  | .malformed path fault => "malformed JSON in " ++ path.display ++ ": " ++ fault.message
  | .invalid problems =>
    "invalid document (" ++ toString problems.length ++ " problem(s)): " ++
      "; ".intercalate problems
  | .refused refusal => "I/O error: " ++ refusal.message

/-- Why a unit has failed. -/
inductive UnitError where
  | config (error : ConfigError)
  | render (error : RenderError)
  /-- The worker crashed, with what it said. -/
  | crashed (words : String)

namespace UnitError

/-- Why a unit has failed, in words. -/
def message : UnitError → String
  | .config error => error.message
  | .render error => error.message
  | .crashed words => "worker panicked: " ++ words

def code : UnitError → String
  | .config _ => "CONFIGURATION_ERROR"
  | .render _ => "RENDER_ERROR"
  | .crashed _ => "WORKER_PANIC"

end UnitError

end Vitae
