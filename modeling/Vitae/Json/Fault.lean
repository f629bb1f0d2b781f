import Vitae.Text.Quoted
import Vitae.Number.Shortest

/-!
# Faults in JSON Text

Everything that can be wrong with a JSON text, as a cause rather than a
message. A fault is of one of three classes: the text ends too early, its form
is broken, or it is well formed but holds something other than what was asked
for. Only the last class talks about the reader's wishes, so it carries what
was found and what was expected.

## Main definitions

* `Found`: What a reader met where it wanted something else.
* `Fault`: What is wrong with a text.
* `Fault.category`: The class of a fault.
* `Fault.message`: A fault in words.
-/

namespace Vitae

namespace Json

/-- What a reader met where it wanted something else. -/
inductive Found where
  | null
  | boolean (b : Bool)
  | integer (i : Int)
  | real (x : Float)
  | text (s : String)
  | list
  | object

/-- What was met, in words. -/
def Found.describe : Found → String
  | .null => "null"
  | .boolean b => "boolean `" ++ (if b then "true" else "false") ++ "`"
  | .integer i => "integer `" ++ toString i ++ "`"
  | .real x => "floating point `" ++ Shortest.text x ++ "`"
  | .text s => "string " ++ Text.quoted s
  | .list => "sequence"
  | .object => "map"

/-- The three classes of faults. -/
inductive Category where
  /-- The text ends too early. -/
  | ending
  /-- The text is not JSON. -/
  | form
  /-- The text is JSON, but not of the kind that was asked for. -/
  | content
deriving DecidableEq, Repr

/-- What is wrong with a text. -/
inductive Fault where
  | endInValue
  | endInList
  | endInObject
  | endInString
  | noValue
  | badWord
  | noColon
  | noCommaOrBracket
  | noCommaOrBrace
  | keyNotText
  | trailingComma
  | trailingCharacters
  | badNumber
  | numberTooLarge
  | badEscape
  | endInHexEscape
  | loneSurrogate
  | notUnicode
  | controlCharacter
  | tooDeep
  /-- A value of the wrong kind. -/
  | unexpected (found : Found) (expected : String)
  /-- A required field that is absent. -/
  | missingField (key : String)
  /-- A known field given twice. -/
  | duplicateField (key : String)
  /-- A list that gives too few fields of a record. -/
  | wrongLength (count : Nat) (expected : String)
  /-- A text that is not what its field holds. -/
  | refused (reason : String)

def Fault.category : Fault → Category
  | .endInValue | .endInList | .endInObject | .endInString => .ending
  | .unexpected _ _ | .missingField _ | .duplicateField _ | .wrongLength _ _ | .refused _ =>
    .content
  | _ => .form

def Fault.message : Fault → String
  | .endInValue => "EOF while parsing a value"
  | .endInList => "EOF while parsing a list"
  | .endInObject => "EOF while parsing an object"
  | .endInString => "EOF while parsing a string"
  | .noValue => "expected value"
  | .badWord => "expected ident"
  | .noColon => "expected `:`"
  | .noCommaOrBracket => "expected `,` or `]`"
  | .noCommaOrBrace => "expected `,` or `\x7d`"
  | .keyNotText => "key must be a string"
  | .trailingComma => "trailing comma"
  | .trailingCharacters => "trailing characters"
  | .badNumber => "invalid number"
  | .numberTooLarge => "number out of range"
  | .badEscape => "invalid escape"
  | .endInHexEscape => "unexpected end of hex escape"
  | .loneSurrogate => "lone leading surrogate in hex escape"
  | .notUnicode => "invalid unicode code point"
  | .controlCharacter => "control character (\\u0000-\\u001F) found while parsing a string"
  | .tooDeep => "recursion limit exceeded"
  | .unexpected found expected => "invalid type: " ++ found.describe ++ ", expected " ++ expected
  | .missingField key => "missing field `" ++ key ++ "`"
  | .duplicateField key => "duplicate field `" ++ key ++ "`"
  | .wrongLength count expected =>
    "invalid length " ++ toString count ++ ", expected " ++ expected
  | .refused reason => reason

end Json

end Vitae
