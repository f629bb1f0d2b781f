import Vitae.Log.Entry
import Vitae.Number.Natural
import Vitae.Text.Blank
import Vitae.Text.Pattern

/-!
# Log Rules

A rule says up to which level entries are shown. It speaks about the entries
whose origin begins with its target, if it has one, and which have its field, if
it names one.

A rule is written as a directive: a level, or a target, or both with an equals
sign between them. Behind the target there can be brackets with the name of a
span and, in braces, a field. A directive about a span, or about the value of a
field in one, makes no rule, for the entries here stand in no span.

The parts of a directive are cut out at places that are counted from its first
character other than a space, but in the directive as it was given. So spaces
in front shift what is cut out, and a cut may fall into the middle of a
character.

## Main definitions

* `LogRule`: A rule.
* `LogRule.covers`: Whether a rule speaks about an entry.
* `LogDirective`: A directive.
* `LogDirective.parse`: The directive that characters denote.
* `LogDirective.rule?`: The rule that a directive makes.
-/

namespace Vitae

/-- A rule about the entries of some origins. -/
structure LogRule where
  /-- What the origins begin with, if it matters. -/
  target : Option (List Char)
  /-- The field that the entries have, if it matters. -/
  field : Option String
  /-- How much detail is shown. Nothing is shown for zero. -/
  detail : Nat
deriving DecidableEq, Repr

namespace LogRule

/-- The origin of an entry, in one piece. -/
def originOf (entry : LogEntry) : List Char :=
  ("::".intercalate entry.origin).toList

/-- The names of the fields of an entry. The message is one of them. -/
def fieldsOf (entry : LogEntry) : List String :=
  "message" :: entry.fields.map Prod.fst

def covers (rule : LogRule) (entry : LogEntry) : Bool :=
  (match rule.target with
    | some target => target.isPrefixOf (originOf entry)
    | none => true) &&
    (match rule.field with
    | some field => (fieldsOf entry).contains field
    | none => true)

/-- How specific the target of a rule is. -/
def targetWeight (rule : LogRule) : Nat :=
  match rule.target with
  | some target => target.length + 1
  | none => 0

/-- Whether a rule is at least as specific as another one that speaks about the
same entry. The target counts first, and then whether a field is named. Of two
fields the one that comes later in a dictionary counts more. -/
def isAsSpecificAs (other rule : LogRule) : Bool :=
  if other.targetWeight ≠ rule.targetWeight then other.targetWeight < rule.targetWeight
  else
    match other.field, rule.field with
    | none, _ => true
    | some _, none => false
    | some f, some g => f ≤ g

/-- The names of the levels, with the detail they stand for. -/
def levels : List (String × Nat) :=
  [("off", 0), ("error", Level.error.rank), ("warn", Level.warning.rank),
    ("info", Level.info.rank), ("debug", Level.debug.rank), ("trace", Level.trace.rank)]

/-- The detail of a level, which is given by its name or its number. -/
def detail? (cs : List Char) : Option Nat :=
  match Natural.parse? 64 cs with
  | some n => if n ≤ Level.trace.rank then some n else none
  | none => levels.lookup (String.ofList (cs.map Char.toLower))

/-- The detail if a level is left out. -/
def fullDetail : Nat := Level.trace.rank

end LogRule

/-- Why characters are no directive. -/
inductive DirectiveFault where
  /-- They do not have the form of one. -/
  | malformed
  /-- A part of it would begin or end within a character. -/
  | torn
deriving DecidableEq, Repr

/-- A directive. -/
structure LogDirective where
  target : Option (List Char)
  span : Bool
  /-- The field that is named, and whether its value is restricted. -/
  field : Option (String × Bool)
  detail : Nat
deriving DecidableEq, Repr

namespace LogDirective

/-- A directive that says nothing yet. -/
def blank : LogDirective := ⟨none, false, none, LogRule.fullDetail⟩

/-- The rule that a directive makes, if it makes one. -/
def rule? (directive : LogDirective) : Option LogRule :=
  match directive.span, directive.field with
  | false, none => some ⟨directive.target, none, directive.detail⟩
  | false, some (name, false) => some ⟨directive.target, some name, directive.detail⟩
  | _, _ => none

/-- Where the reading of a directive stands. Places are counted in bytes. -/
inductive Spot where
  | start
  /-- In a target, or in a level alone. -/
  | target (place : Nat)
  /-- In the name of a span. -/
  | span (place : Nat)
  | field (place : Nat)
  /-- Behind the brace that closes a field. -/
  | fieldEnd
  /-- Behind the bracket that closes a span. -/
  | spanEnd
  | level (place : Nat)
deriving DecidableEq, Repr

/-- Characters without as many bytes at their front. -/
def dropBytes : Nat → List Char → Except DirectiveFault (List Char)
  | 0, cs => .ok cs
  | _ + 1, [] => .ok []
  | n + 1, c :: rest =>
    if c.utf8Size ≤ n + 1 then dropBytes (n + 1 - c.utf8Size) rest else .error .torn
termination_by _ cs => cs.length

/-- As many bytes at the front of characters. -/
def takeBytes : Nat → List Char → Except DirectiveFault (List Char)
  | 0, _ => .ok []
  | _ + 1, [] => .ok []
  | n + 1, c :: rest =>
    if c.utf8Size ≤ n + 1 then do
      let more ← takeBytes (n + 1 - c.utf8Size) rest
      .ok (c :: more)
    else .error .torn
termination_by _ cs => cs.length

/-- The characters between two places. -/
def cut (given : List Char) (first last : Nat) : Except DirectiveFault (List Char) := do
  takeBytes (last - first) (← dropBytes first given)

/-- Whether a directive can begin with a character other than a bracket. -/
def begins (c : Char) : Bool :=
  Text.isAlphanumeric c || c == '-' || c == ':' || c == '_'

/-- The digits at the front of characters, and the rest. -/
def digits (cs : List Char) : List Char × List Char :=
  (cs.takeWhile Char.isDigit, cs.dropWhile Char.isDigit)

/-- Whether characters are the exponent of a number, or nothing. -/
def isExponent : List Char → Bool
  | [] => true
  | c :: rest =>
    let digits := if rest.head? = some '+' ∨ rest.head? = some '-' then rest.drop 1 else rest
    (c == 'e' || c == 'E') && !digits.isEmpty && digits.all Char.isDigit

/-- Whether characters are a number without a sign. -/
def isUnsigned (cs : List Char) : Bool :=
  if ["inf", "infinity", "nan"].contains (String.ofList (cs.map Char.toLower)) then true
  else
    let (whole, rest) := digits cs
    match rest with
    | '.' :: more =>
      let (part, rest) := digits more
      !(whole ++ part).isEmpty && isExponent rest
    | _ => !whole.isEmpty && isExponent rest

/-- Whether characters can restrict the value of a field. They are a number or a
regular expression. -/
def isValueTest (cs : List Char) : Bool :=
  Pattern.isWellFormed cs ||
    match cs with
    | '+' :: rest => isUnsigned rest
    | _ => false

/-- The field that characters name, and whether they restrict its value. -/
def fieldTest (cs : List Char) : Except DirectiveFault (String × Bool) :=
  match Text.pieces (· == '=') cs with
  | name :: value :: _ =>
    if isValueTest value then .ok (String.ofList name, true) else .error .malformed
  | _ => if cs.isEmpty then .error .malformed else .ok (String.ofList cs, false)

/-- Reads one more character, which stands at the given place. -/
def step (given : List Char) (spot : Spot) (directive : LogDirective) (place : Nat) (c : Char) :
    Except DirectiveFault (Spot × LogDirective) :=
  match spot with
  | .start =>
    if c = '[' then .ok (.span (place + 1), directive)
    else if begins c then .ok (.target place, directive)
    else .error .malformed
  | .target first =>
    if c = '=' then do
      let target ← cut given first place
      .ok (.level (place + 1), { directive with target := some target })
    else if c = '[' then do
      let target ← cut given first place
      .ok (.span (place + 1), { directive with target := some target })
    else .ok (spot, directive)
  | .span first =>
    if c = ']' then do
      let _ ← cut given first place
      .ok (.spanEnd, { directive with span := true })
    else if c = '\x7b' then do
      let name ← cut given first place
      .ok (.field (place + 1), { directive with span := !name.isEmpty })
    else .ok (spot, directive)
  | .field first =>
    if c = '\x7d' then do
      let field ← fieldTest (← cut given first place)
      .ok (.fieldEnd, { directive with field := some field })
    else .ok (spot, directive)
  | .fieldEnd => if c = ']' then .ok (.spanEnd, directive) else .error .malformed
  | .spanEnd => if c = '=' then .ok (.level (place + 1), directive) else .error .malformed
  | .level _ => .ok (spot, directive)

/-- Reads the characters that follow, the first of which stands at the given
place. -/
def scan (given : List Char) (spot : Spot) (directive : LogDirective) (place : Nat) :
    List Char → Except DirectiveFault (Spot × LogDirective)
  | [] => .ok (spot, directive)
  | c :: rest => do
    let (spot, directive) ← step given spot directive place c
    scan given spot directive (place + c.utf8Size) rest

/-- The end of a directive. A word alone is a level if it is the name of one, and
a target otherwise. -/
def finish (given : List Char) (spot : Spot) (directive : LogDirective) :
    Except DirectiveFault LogDirective :=
  match spot with
  | .target first => do
    let word ← dropBytes first given
    match LogRule.detail? word with
    | some detail => .ok { directive with target := none, detail := detail }
    | none => .ok { directive with target := some word }
  | .level first => do
    let word ← dropBytes first given
    if word.isEmpty then .ok directive
    else
      match LogRule.detail? word with
      | some detail => .ok { directive with detail := detail }
      | none => .error .malformed
  | .spanEnd => .ok directive
  | .start | .span _ | .field _ | .fieldEnd => .error .malformed

def parse (given : List Char) : Except DirectiveFault LogDirective := do
  let (spot, directive) ← scan given .start blank 0 (Text.trimChars given)
  finish given spot directive

end LogDirective

end Vitae
