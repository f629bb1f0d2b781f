import Vitae.CommandLine.Environment
import Vitae.Files.Store
import Vitae.Text.Alphanumeric
import Vitae.Text.Blank

/-!
# Files of Variables

A file may give values to variables that have none, one on a line, as `KEY=value`
with an optional `export` in front. A value can be in quotes, which may hold
spaces and go on over several lines. Outside single quotes a backslash protects
the character behind it and a dollar sign stands in front of a variable, whose
value takes its place. A `#` behind a blank begins a comment.

The lines are read one after the other and each sees what those before it have
done. The first line that is malformed ends the reading, and what was read
before it stays.

## Main definitions

* `Quoting`: Whether a line ends here or goes on.
* `VariableLine.parse`: The variable and the value on a line.
* `VariableFile.load`: Takes over the variables of a file.
* `VariableFile.nearest?`: The file that a run reads.
-/

namespace Vitae

/-- How far the quotes of a line have been read. -/
inductive Quoting where
  /-- Outside of quotes. -/
  | outside
  /-- Outside of quotes, behind a blank. -/
  | afterBlank
  /-- Outside of quotes, behind a backslash. -/
  | escaped
  | double
  | doubleEscaped
  | single
  | singleEscaped
deriving DecidableEq, Repr

namespace Quoting

/-- The state that a character outside of quotes leads to. -/
def enter (c : Char) : Quoting :=
  if c = '\\' then .escaped
  else if c = '"' then .double
  else if c = '\'' then .single
  else .outside

/-- The state behind one more character. -/
def step (quoting : Quoting) (c : Char) : Quoting :=
  match quoting with
  | .afterBlank => enter c
  | .escaped => .outside
  | .outside =>
    if Text.isSpace c && c != '\n' && c != '\r' then .afterBlank else enter c
  | .double => if c = '\\' then .doubleEscaped else if c = '"' then .outside else .double
  | .doubleEscaped => .double
  | .single => if c = '\\' then .singleEscaped else if c = '\'' then .outside else .single
  | .singleEscaped => .single

/-- Reads a stretch of a line. The result is what stands in front of the
comment, the state at the end, and whether there is a comment. -/
def scan (quoting : Quoting) : List Char → List Char × Quoting × Bool
  | [] => ([], quoting, false)
  | c :: rest =>
    if quoting = .afterBlank ∧ c = '#' then ([], quoting, true)
    else
      let (kept, last, comment) := scan (quoting.step c) rest
      (c :: kept, last, comment)

end Quoting

namespace VariableLine

/-- What the next character of a value belongs to. -/
inductive Spot where
  | plain
  /-- Behind a backslash. -/
  | escaped
  /-- In single quotes. -/
  | single
  /-- Behind a dollar sign, with the name so far. -/
  | name (soFar : List Char)
  /-- Behind a dollar sign and a brace, with the name so far. -/
  | braced (soFar : List Char)
  /-- Behind the value. -/
  | ended
  /-- In the comment behind the value. -/
  | comment
deriving DecidableEq, Repr

/-- A value that is being read. -/
structure Progress where
  output : List Char
  double : Bool
  spot : Spot
deriving DecidableEq, Repr

/-- A value with some characters added to it. -/
def Progress.add (progress : Progress) (cs : List Char) : Progress :=
  { progress with output := progress.output ++ cs, spot := .plain }

/-- The characters that the name of a variable stands for. -/
def valueOf (environment : Environment) (name : List Char) : List Char :=
  match environment.text? (String.ofList name) with
  | some text => text.toList
  | none => []

/-- The character that one behind a backslash stands for. -/
def unescape? (c : Char) : Option Char :=
  if c = 'n' then some '\n'
  else if ['\\', '\'', '"', '$', ' '].contains c then some c
  else none

def openBrace : Char := '\x7b'

def closeBrace : Char := '\x7d'

/-- Reads a character that has no part in a name or an escape. -/
def stepPlain (progress : Progress) (c : Char) : Progress :=
  if c = '$' then { progress with spot := .name [] }
  else if progress.double then
    if c = '"' then { progress with double := false }
    else if c = '\\' then { progress with spot := .escaped }
    else progress.add [c]
  else if c = '\'' then { progress with spot := .single }
  else if c = '"' then { progress with double := true }
  else if c = '\\' then { progress with spot := .escaped }
  else if c = ' ' ∨ c = '\t' then { progress with spot := .ended }
  else progress.add [c]

/-- Reads one more character of a value. There is no result if it is
malformed. -/
def step (environment : Environment) (progress : Progress) (c : Char) : Option Progress :=
  match progress.spot with
  | .comment => some progress
  | .ended =>
    if c = ' ' ∨ c = '\t' then some progress
    else if c = '#' then some { progress with spot := .comment }
    else none
  | .escaped => (unescape? c).map fun c => progress.add [c]
  | .single =>
    if c = '\'' then some { progress with spot := .plain }
    else some { progress with output := progress.output ++ [c] }
  | .name soFar =>
    if Text.isAlphanumeric c then some { progress with spot := .name (soFar ++ [c]) }
    else if c = openBrace ∧ soFar = [] then some { progress with spot := .braced [] }
    else
      let progress := progress.add (valueOf environment soFar)
      if c = '$' then some { progress with spot := .name [] } else some (progress.add [c])
  | .braced soFar =>
    if c = closeBrace then some (progress.add (valueOf environment soFar))
    else some { progress with spot := .braced (soFar ++ [c]) }
  | .plain => some (stepPlain progress c)

/-- The end of a value. Quotes and braces have to be closed. -/
def finish (environment : Environment) (progress : Progress) : Option (List Char) :=
  match progress.double, progress.spot with
  | true, _ | _, .single | _, .braced _ => none
  | false, .name soFar => some (progress.output ++ valueOf environment soFar)
  | false, _ => some progress.output

/-- The value that a list of characters denotes. -/
def value? (environment : Environment) (cs : List Char) : Option (List Char) := do
  finish environment (← cs.foldlM (step environment) ⟨[], false, .plain⟩)

/-- A list of characters without the blanks at its front. -/
def skip (cs : List Char) : List Char :=
  cs.dropWhile Text.isSpace

/-- Whether a name can begin with a character. -/
def beginsName (c : Char) : Bool := c.isAlpha || c == '_'

/-- Whether a name can go on with a character. -/
def continuesName (c : Char) : Bool := c.isAlphanum || c == '_' || c == '.'

/-- A name and what follows it behind blanks. -/
def name? (cs : List Char) : Option (List Char × List Char) :=
  if cs.head?.any beginsName then
    some (cs.takeWhile continuesName, skip (cs.dropWhile continuesName))
  else none

/-- What follows an equals sign behind blanks. -/
def assigned? : List Char → Option (List Char)
  | '=' :: rest => some (skip rest)
  | _ => none

/-- The name a line assigns to, and what it assigns. The word `export` can
stand in front of the name, or be the name. -/
def assignment? (cs : List Char) : Option (List Char × List Char) := do
  let (name, rest) ← name? cs
  match assigned? rest with
  | some value => some (name, value)
  | none =>
    if name ≠ "export".toList then none
    else
      let (name, rest) ← name? rest
      some (name, ← assigned? rest)

/-- What a line says. -/
inductive Result where
  /-- Nothing. -/
  | idle
  | malformed
  | assigns (name value : String)
deriving DecidableEq, Repr

/-- Whether nothing but a comment is left. -/
def isIdle (cs : List Char) : Bool :=
  cs.isEmpty || cs.head? == some '#'

def parse (environment : Environment) (line : List Char) : Result :=
  let body := Text.trimChars line
  if isIdle body then .idle
  else
    match assignment? body with
    | none => .malformed
    | some (name, rest) =>
      if isIdle rest then .assigns (String.ofList name) ""
      else
        match value? environment rest with
        | none => .malformed
        | some value => .assigns (String.ofList name) (String.ofList value)

end VariableLine

namespace VariableFile

/-- The bytes of a file up to and with each line end. -/
def rows : Bytes → List Bytes
  | [] => []
  | b :: rest =>
    if b = 0x0A then [b] :: rows rest
    else
      match rows rest with
      | [] => [[b]]
      | row :: more => (b :: row) :: more

def withoutEnd (line : List Char) : List Char :=
  match line.reverse with
  | '\n' :: '\r' :: rest => rest.reverse
  | '\n' :: rest => rest.reverse
  | _ => line

/-- A value that a variable cannot have. -/
structure UnfitValue where
  name : String
  value : String
deriving DecidableEq, Repr

/-- Gives a value to a variable that has none. The system ends values with a
zero, so there can be none inside. -/
def assign (name value : String) (environment : Environment) : Except UnfitValue Environment :=
  if (environment.text? name).isNone && value.toList.contains '\x00' then .error ⟨name, value⟩
  else .ok (environment.supply name value)

/-- Takes over the variables of the rows that follow. The line read so far may
have begun on an earlier row, if quotes are still open. A line that is not
complete at the end is malformed. -/
def loadRows (line : List Char) (quoting : Quoting) :
    List Bytes → Environment → Except UnfitValue Environment
  | [], environment => .ok environment
  | row :: rest, environment =>
    match Utf8.decodeChars? row with
    | none => .ok environment
    | some cs =>
      if (VariableLine.skip (line ++ cs)).head? == some '#' then
        loadRows [] .outside rest environment
      else
        let (kept, last, comment) := quoting.scan cs
        let line := line ++ kept
        if !comment && last != .outside then loadRows line last rest environment
        else
          let complete := if comment then line else withoutEnd line
          match VariableLine.parse environment complete with
          | .malformed => .ok environment
          | .idle => loadRows [] .outside rest environment
          | .assigns name value => do loadRows [] .outside rest (← assign name value environment)

/-- A file without the mark of its encoding. -/
def withoutMark : Bytes → Bytes
  | 0xEF :: 0xBB :: 0xBF :: rest => rest
  | contents => contents

def load (contents : Bytes) (environment : Environment) : Except UnfitValue Environment :=
  loadRows [] .outside (rows (withoutMark contents)) environment

def fileName : Bytes := Utf8.encode ".env"

/-- The path of the file of variables in a folder, which is given from the
innermost name outwards. -/
def pathIn (folder : List Bytes) : Path :=
  ⟨(fileName :: folder).reverse.flatMap (Path.slash :: ·)⟩

/-- The nearest file of variables in a folder or above it. -/
def nearest? (store : Store) : List Bytes → Option Path
  | [] => if store.isFile (pathIn []) then some (pathIn []) else none
  | name :: outer =>
    match store.inspect (pathIn (name :: outer)) with
    | .ok (.file _) => some (pathIn (name :: outer))
    | .ok _ | .error .notThere => nearest? store outer
    | .error _ => none

/-- The environment after the nearest file of variables has been taken over. -/
def read (store : Store) (environment : Environment) : Except UnfitValue Environment :=
  match nearest? store store.start.reverse with
  | none => .ok environment
  | some path =>
    match store.read path with
    | .ok contents => load contents environment
    | .error _ => .ok environment

end VariableFile

end Vitae
