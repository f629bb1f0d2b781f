import Vitae.Text.Quoted

/-!
# Log Entries

What a run has to say while it goes on. An entry has a level, the part of the
program it comes from, a message and named values; it becomes a line of text
only when it is shown. A line names the innermost part the entry comes from.

Control characters that a terminal would act on are spelled out in messages.
The values are shown as they are or in quotes, each in its own way.

## Main definitions

* `Level`, `LogValue`, `LogEntry`: What is logged.
* `LogEntry.text`: An entry as a line, without the time.
-/

namespace Vitae

/-- How much an entry matters, the most important first. -/
inductive Level where
  | error
  | warning
  | info
  | debug
  | trace
deriving DecidableEq, Repr

def Level.name : Level → String
  | .error => "error"
  | .warning => "warning"
  | .info => "info"
  | .debug => "debug"
  | .trace => "trace"

def Level.rank : Level → Nat
  | .error => 1
  | .warning => 2
  | .info => 3
  | .debug => 4
  | .trace => 5

/-- A named value of an entry. -/
inductive LogValue where
  /-- A text shown as it is. -/
  | plain (text : String)
  /-- A text shown in quotes. -/
  | quoted (text : String)
  | number (n : Nat)
  | flag (b : Bool)
deriving DecidableEq, Repr

def LogValue.text : LogValue → String
  | .plain text => text
  | .quoted text => Text.quoted text
  | .number n => toString n
  | .flag b => if b then "true" else "false"

/-- Something that is logged. -/
structure LogEntry where
  level : Level
  /-- The part of the program the entry comes from, outermost first. -/
  origin : List String
  message : String
  fields : List (String × LogValue)
deriving DecidableEq, Repr

namespace LogEntry

/-- The name of the program, the outermost part of every origin. -/
def program : String := "json2pdf"

/-- The innermost part an entry comes from. -/
def logger (entry : LogEntry) : String :=
  entry.origin.getLast?.getD ""

/-- A character of a message, spelled out if a terminal would act on it. -/
def messageChar (c : Char) : List Char :=
  let n := c.toNat
  if n = 0x07 ∨ n = 0x08 ∨ n = 0x0C then ['\\', 'x', '0'] ++ Text.hexDigits n
  else if n = 0x1B ∨ n = 0x7F then ['\\', 'x'] ++ Text.hexDigits n
  else if 0x80 ≤ n ∧ n ≤ 0x9F then ['\\', 'u', '\x7b'] ++ Text.hexDigits n ++ ['\x7d']
  else [c]

def messageText (message : String) : String :=
  String.ofList (message.toList.flatMap messageChar)

/-- The named values as they are shown. -/
def fieldsText (fields : List (String × LogValue)) : String :=
  String.join (fields.map (fun f => " " ++ f.1 ++ "=" ++ f.2.text))

def text (entry : LogEntry) : String :=
  "[" ++ program ++ "] [" ++ entry.logger ++ "] [" ++ entry.level.name ++ "] " ++
    messageText entry.message ++ fieldsText entry.fields

end LogEntry

end Vitae
