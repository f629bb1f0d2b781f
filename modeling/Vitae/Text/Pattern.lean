import Vitae.Text.Alphanumeric
import Vitae.Text.Blank

/-!
# Patterns

Regular expressions, as far as it matters whether a text is one. Parentheses and
brackets have to be closed, a repetition needs something to repeat, a range must
not be turned around, and only some letters can stand behind a backslash.

A pattern has to be meant for text, without knowing more about a letter than its
number. So classes of letters, edges of words and letters that stand for both
cases are only accepted where bytes are meant, and there nothing may match a byte
outside ASCII. A brace stands in no pattern, unless a backslash is in front of it.

## Main definitions

* `Pattern.Manner`: How a part of a pattern is meant.
* `Pattern.escape?`: What stands behind a backslash.
* `Pattern.classEnd?`: What follows a class in brackets.
* `Pattern.opening?`: What follows the opening of a group.
* `Pattern.isWellFormed`: Whether a text is a regular expression.

## Theorems

* `Pattern.scan_of_plain`: Characters without a meaning of their own are well
  formed.
-/

namespace Vitae

namespace Pattern

/-- How a part of a pattern is meant. -/
structure Manner where
  bothCases : Bool
  /-- Characters are meant. Otherwise it is bytes. -/
  wide : Bool
  /-- Spaces mean nothing, and neither does what follows a number sign. -/
  loose : Bool
deriving DecidableEq, Repr

namespace Manner

/-- How a pattern is meant if it says nothing about it. -/
def standard : Manner := ⟨false, true, false⟩

/-- A part where letters can stand for themselves. -/
def takesLetters (manner : Manner) : Bool :=
  !(manner.bothCases && manner.wide)

def takesInClass (manner : Manner) (c : Char) : Bool :=
  manner.takesLetters && (manner.wide || c.toNat < 0x80)

/-- The characters that follow, from the first on that means something. -/
def skip (manner : Manner) (cs : List Char) : List Char :=
  if !manner.loose then cs
  else go (cs.length + 1) cs
where
  /-- The same for at most as many spaces and remarks as `fuel` says. -/
  go : Nat → List Char → List Char
    | 0, cs => cs
    | fuel + 1, cs =>
      match cs.dropWhile Text.isSpace with
      | '#' :: remark => go fuel (remark.dropWhile (· != '\n'))
      | rest => rest

/-- The manner after flags, of which the ones behind a hyphen are taken back. -/
def set (manner : Manner) : Bool → List Char → Manner
  | _, [] => manner
  | _, '-' :: flags => manner.set false flags
  | on, 'i' :: flags => { manner with bothCases := on }.set on flags
  | on, 'u' :: flags => { manner with wide := on }.set on flags
  | on, 'x' :: flags => { manner with loose := on }.set on flags
  | on, _ :: flags => manner.set on flags

end Manner

/-- The number that hexadecimal digits denote, if they are such. -/
def hexNumber? (cs : List Char) : Option Nat :=
  cs.foldlM (fun n c =>
    if c.isDigit then some (n * 16 + (c.toNat - '0'.toNat))
    else if 'a' ≤ c ∧ c ≤ 'f' then some (n * 16 + (c.toNat - 'a'.toNat + 10))
    else if 'A' ≤ c ∧ c ≤ 'F' then some (n * 16 + (c.toNat - 'A'.toNat + 10))
    else none) 0

/-- The character given by as many hexadecimal digits as `count` says, and what
follows it. -/
def hexChar? (count : Nat) (cs : List Char) : Option (Char × List Char) := do
  if cs.length < count then none
  let n ← hexNumber? (cs.take count)
  if h : n.isValidChar then some (Char.ofNatAux n h, cs.drop count) else none

def controlLetters : List (Char × Char) :=
  [('a', '\x07'), ('f', '\x0c'), ('t', '\t'), ('n', '\n'), ('r', '\r'), ('v', '\x0b')]

/-- What can stand behind a backslash. -/
inductive Escape where
  | char (c : Char)
  /-- A character that is given by two hexadecimal digits. -/
  | byte (c : Char)
  /-- The digits, the spaces or the letters of words, or all but these. -/
  | kind (negated : Bool)
  /-- The beginning or the end of the text. -/
  | border
  /-- The beginning or the end of a word, or the absence of both. -/
  | edge
deriving DecidableEq, Repr

def escape? : List Char → Option (Escape × List Char)
  | [] => none
  | 'x' :: rest => (hexChar? 2 rest).map fun (c, rest) => (.byte c, rest)
  | 'u' :: rest => (hexChar? 4 rest).map fun (c, rest) => (.char c, rest)
  | 'U' :: rest => (hexChar? 8 rest).map fun (c, rest) => (.char c, rest)
  | c :: rest =>
    if c = 'A' ∨ c = 'z' then some (.border, rest)
    else if c = 'b' ∨ c = 'B' ∨ c = '<' ∨ c = '>' then some (.edge, rest)
    else if c = 'd' ∨ c = 's' ∨ c = 'w' then some (.kind false, rest)
    else if c = 'D' ∨ c = 'S' ∨ c = 'W' then some (.kind true, rest)
    else
      match controlLetters.lookup c with
      | some control => some (.char control, rest)
      | none => if c.toNat < 0x80 ∧ !c.isAlphanum then some (.char c, rest) else none

namespace Escape

/-- Whether it can stand outside of a class. -/
def standsAlone (manner : Manner) : Escape → Bool
  | char _ => manner.takesLetters
  | byte c => manner.takesInClass c
  | kind negated => !manner.wide && !negated
  | border => true
  | edge => !manner.wide

def standsInClass (manner : Manner) : Escape → Bool
  | char c | byte c => manner.takesInClass c
  | kind negated => !manner.wide && !negated
  | border | edge => false

/-- The character that it stands for, if it is one. -/
def char? : Escape → Option Char
  | char c | byte c => some c
  | _ => none

end Escape

def classNames : List String :=
  ["alnum", "alpha", "ascii", "blank", "cntrl", "digit", "graph", "lower", "print", "punct",
    "space", "upper", "word", "xdigit"]

/-- What follows a class that is given by its name, behind the bracket that
opens it, and whether the class is turned around. -/
def namedClass? : List Char → Option (Bool × List Char)
  | ':' :: rest =>
    let negated := rest.head? == some '^'
    let body := if negated then rest.drop 1 else rest
    let name := body.takeWhile (· != ':')
    match body.drop name.length with
    | ':' :: ']' :: more =>
      if classNames.contains (String.ofList name) then some (negated, more) else none
    | _ => none
  | _ => none

/-- What follows the characters at the beginning of a class that mean nothing
special there. A class of bytes cannot be turned around. -/
def classBody? (manner : Manner) (cs : List Char) : Option (List Char) :=
  let cs := manner.skip cs
  let negated := cs.head? == some '^'
  if negated && !manner.wide then none
  else
    let cs := if negated then manner.skip (cs.drop 1) else cs
    let (hyphens, body) := (cs.takeWhile (· == '-'), cs.dropWhile (· == '-'))
    if !hyphens.isEmpty && !manner.takesInClass '-' then none
    else if hyphens.isEmpty && body.head? == some ']' then
      if manner.takesInClass ']' then some (body.drop 1) else none
    else some body

/-- A single part of a class, and what follows it. -/
def classPart? (manner : Manner) : List Char → Option (Escape × List Char)
  | [] => none
  | '\\' :: rest => do
    let (escape, rest) ← escape? rest
    if escape.standsInClass manner then some (escape, rest) else none
  | c :: rest => if manner.takesInClass c then some (.char c, rest) else none

/-- What follows a range of a class, of which one has read the first part. -/
def rangeEnd? (manner : Manner) (first : Escape) (cs : List Char) : Option (List Char) := do
  let (last, rest) ← classPart? manner (manner.skip cs)
  if (← first.char?) ≤ (← last.char?) then some rest else none

/-- What follows a class. It may hold other classes, and `depth` of them are
open. -/
def classEnd? (manner : Manner) : Nat → Nat → List Char → Option (List Char)
  | 0, _, _ => none
  | fuel + 1, depth, cs =>
    match manner.skip cs with
    | [] => none
    | '[' :: rest =>
      match namedClass? rest with
      | some (negated, more) =>
        if manner.takesLetters && (manner.wide || !negated) then
          classEnd? manner fuel depth more
        else none
      | none => (classBody? manner rest).bind (classEnd? manner fuel (depth + 1))
    | ']' :: rest => if depth = 0 then some rest else classEnd? manner fuel (depth - 1) rest
    | '&' :: '&' :: rest => classEnd? manner fuel depth rest
    | '-' :: '-' :: rest => classEnd? manner fuel depth rest
    | '~' :: '~' :: rest => classEnd? manner fuel depth rest
    | c :: more => do
      let (first, rest) ← classPart? manner (c :: more)
      let rest := manner.skip rest
      match rest with
      | '-' :: after =>
        let next := (manner.skip after).head?
        if next = some ']' ∨ next = some '-' then classEnd? manner fuel depth rest
        else (rangeEnd? manner first after).bind (classEnd? manner fuel depth)
      | _ => classEnd? manner fuel depth rest

def isGroupName : List Char → Bool
  | [] => false
  | c :: rest =>
    (c == '_' || (Text.isAlphanumeric c && !c.isDigit)) &&
      rest.all fun c => c == '_' || c == '.' || c == '[' || c == ']' || Text.isAlphanumeric c

def areFlags (cs : List Char) : Bool :=
  cs.all ("imsUuRx-".toList.contains ·) && decide cs.Nodup && cs.getLast? != some '-'

/-- How a group opens. -/
inductive Opening where
  /-- A group, which perhaps has a name and begins with a manner of its own. -/
  | group (name : Option (List Char)) (manner : Manner)
  /-- No group, but another manner for the rest of the one that is open. -/
  | change (manner : Manner)

/-- How a group opens, and what follows. One has read the parenthesis. -/
def opening? (manner : Manner) (cs : List Char) : Option (Opening × List Char) :=
  let named (body : List Char) : Option (Opening × List Char) :=
    let name := body.takeWhile (· != '>')
    match body.drop name.length with
    | _ :: rest => if isGroupName name then some (.group (some name) manner, rest) else none
    | [] => none
  match manner.skip cs with
  | '?' :: 'P' :: '<' :: body => named body
  | '?' :: '<' :: body => named body
  | '?' :: body =>
    let flags := body.takeWhile fun c => c != ':' && c != ')'
    if !areFlags flags then none
    else
      match body.drop flags.length with
      | ':' :: rest => some (.group none (manner.set true flags), rest)
      | _ :: rest => if flags.isEmpty then none else some (.change (manner.set true flags), rest)
      | [] => none
  | rest => some (.group none manner, rest)

/-- Where the reading of a pattern stands. -/
structure State where
  manner : Manner
  /-- The manners around the groups that are open. -/
  outer : List Manner
  names : List (List Char)
  repeatable : Bool

/-- Reads one more part of a pattern, which is not empty. -/
def step (state : State) (c : Char) (rest : List Char) : Option (State × List Char) :=
  let manner := state.manner
  let after (rest : List Char) : Option (State × List Char) :=
    some ({ state with repeatable := true }, rest)
  if c = '(' then
    match opening? manner rest with
    | some (.group name inner, rest) =>
      if name.any state.names.contains then none
      else some (⟨inner, manner :: state.outer, name.toList ++ state.names, false⟩, rest)
    | some (.change inner, rest) =>
      some ({ state with manner := inner, repeatable := false }, rest)
    | none => none
  else if c = ')' then
    match state.outer with
    | [] => none
    | manner :: outer => some (⟨manner, outer, state.names, true⟩, rest)
  else if c = '|' then some ({ state with repeatable := false }, rest)
  else if c = '*' ∨ c = '+' ∨ c = '?' then if state.repeatable then after rest else none
  else if c = '^' ∨ c = '$' then after rest
  else if c = '.' then if manner.wide then after rest else none
  else if c = '\x7b' then none
  else if c = '[' then
    (classBody? manner rest).bind fun body =>
      (classEnd? manner (body.length + 1) 0 body).bind after
  else if c = '\\' then
    match escape? rest with
    | some (escape, rest) => if escape.standsAlone manner then after rest else none
    | none => none
  else if manner.takesLetters || (c.toNat ≥ 0x80 && !manner.wide) then after rest
  else none

/-- Reads a regular expression. A lazy repetition looks like one more. -/
def scan : Nat → State → List Char → Bool
  | 0, _, _ => false
  | fuel + 1, state, cs =>
    match state.manner.skip cs with
    | [] => state.outer.isEmpty
    | c :: rest =>
      match step state c rest with
      | some (state, rest) => scan fuel state rest
      | none => false

/-- Whether a text is a regular expression. Each step takes a character at
least, so the length is fuel enough. -/
def isWellFormed (cs : List Char) : Bool :=
  scan (cs.length + 1) ⟨Manner.standard, [], [], false⟩ cs

/-- The characters that have a meaning of their own. -/
def isSpecial (c : Char) : Bool :=
  "()|*+?^$.[\\\x7b".toList.contains c

/-- Characters that stand for themselves make up a regular expression. -/
theorem scan_of_plain {cs : List Char} (h : ∀ c ∈ cs, isSpecial c = false) (repeatable : Bool) :
    scan (cs.length + 1) ⟨Manner.standard, [], [], repeatable⟩ cs = true := by
  induction cs generalizing repeatable with
  | nil => rfl
  | cons c rest ih =>
    have hc : isSpecial c = false := h c (List.mem_cons_self ..)
    simp [isSpecial] at hc
    rw [List.length_cons]
    unfold scan
    simp [hc, step, Manner.standard, Manner.skip, Manner.takesLetters]
    exact ih (fun d hd => h d (List.mem_cons_of_mem _ hd)) true

end Pattern

end Vitae
