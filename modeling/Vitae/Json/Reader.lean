import Vitae.Json.Numeral

/-!
# Reading JSON

Reading goes through the bytes once, from the front, and stops at the first
fault. A reader takes what is left of the text and gives back a value and the
rest. What is wanted is known while reading: where a reader wants a text and
finds a list, it says so at the opening bracket, before the list is looked at.

Two limits keep a hostile text in check. Nested values may be at most 127 deep;
the allowance is an argument of every reader, and reading values recurses on
it. Members that no one asked for are only skipped. Skipping keeps a stack of
open brackets instead of recursing, so it knows no depth limit, and it looks at
numbers and escapes only as far as their form goes.

## Main definitions

* `Reader`: A way to read something off the front of a text.
* `stringBytes`: The contents of a string, escapes resolved.
* `skip`: One value of any kind, thrown away.
* `listOf`: A list, element by element.
* `membersOf`: An object, member by member.
* `value`: One value of any kind.
* `textOf`, `optional`: A string, or anything else that may be null.
* `whole`: A text that holds one value and nothing else.
-/

namespace Vitae

namespace Json

/-- A way to read something off the front of a text, given how many levels of
brackets may still be opened. -/
abbrev Reader (α : Type) := Nat → Bytes → Except Fault (α × Bytes)

/-- The blanks that may stand between the parts of a JSON text. -/
def isBlankByte (b : UInt8) : Bool :=
  b == 0x20 || b == 0x0A || b == 0x09 || b == 0x0D

/-- A text without the blanks at its front. -/
def skipBlanks (bytes : Bytes) : Bytes :=
  bytes.dropWhile isBlankByte

/-- Reads the rest of one of the words `null`, `true` and `false`. -/
def word (rest : Bytes) (bytes : Bytes) : Except Fault Bytes :=
  match rest, bytes with
  | [], bytes => .ok bytes
  | _ :: _, [] => .error .endInValue
  | w :: ws, b :: bs => if w == b then word ws bs else .error .badWord

def hexDigit? (b : UInt8) : Option Nat :=
  let n := b.toNat
  if 0x30 ≤ n && n ≤ 0x39 then some (n - 0x30)
  else if 0x41 ≤ n && n ≤ 0x46 then some (n - 0x41 + 10)
  else if 0x61 ≤ n && n ≤ 0x66 then some (n - 0x61 + 10)
  else none

/-- The value of four hexadecimal digits. -/
def hexUnit? (a b c d : UInt8) : Option Nat := do
  let a ← hexDigit? a
  let b ← hexDigit? b
  let c ← hexDigit? c
  let d ← hexDigit? d
  some (((a * 16 + b) * 16 + c) * 16 + d)

/-- The byte that a one-letter escape stands for. -/
def simpleEscape? (b : UInt8) : Option UInt8 :=
  match b with
  | 0x22 => some 0x22
  | 0x5C => some 0x5C
  | 0x2F => some 0x2F
  | 0x62 => some 0x08
  | 0x66 => some 0x0C
  | 0x6E => some 0x0A
  | 0x72 => some 0x0D
  | 0x74 => some 0x09
  | _ => none

/-- Puts bytes in front of what a reader has read. -/
def prepend (front : Bytes) (read : Except Fault (Bytes × Bytes)) :
    Except Fault (Bytes × Bytes) :=
  read.map (fun (content, rest) => (front ++ content, rest))

/-- The contents of a string behind its opening quote, with escapes resolved.
A character outside the basic plane is escaped as two halves, which must both
be there. -/
def stringBytes : Bytes → Except Fault (Bytes × Bytes)
  | [] => .error .endInString
  | 0x22 :: rest => .ok ([], rest)
  | 0x5C :: 0x75 :: a :: b :: c :: d :: rest =>
    match hexUnit? a b c d with
    | none => .error .badEscape
    | some unit =>
      if unit < 0xD800 || 0xDFFF < unit then
        prepend (String.utf8EncodeChar (Char.ofNat unit)) (stringBytes rest)
      else if 0xDC00 ≤ unit then .error .loneSurrogate
      else
        -- The first half of a pair: the second must follow at once.
        match rest with
        | [] => .error .endInString
        | [0x5C] => .error .endInString
        | 0x5C :: 0x75 :: e :: f :: g :: h :: more =>
          match hexUnit? e f g h with
          | none => .error .badEscape
          | some low =>
            if low < 0xDC00 || 0xDFFF < low then .error .loneSurrogate
            else
              let code := 0x10000 + (unit - 0xD800) * 0x400 + (low - 0xDC00)
              prepend (String.utf8EncodeChar (Char.ofNat code)) (stringBytes more)
        | 0x5C :: 0x75 :: _ => .error .endInString
        | _ => .error .endInHexEscape
  | 0x5C :: 0x75 :: _ => .error .endInString
  | [0x5C] => .error .endInString
  | 0x5C :: b :: rest =>
    match simpleEscape? b with
    | some byte => prepend [byte] (stringBytes rest)
    | none => .error .badEscape
  | b :: rest => if b < 0x20 then .error .controlCharacter else prepend [b] (stringBytes rest)

/-- A string behind its opening quote, as text. -/
def string (bytes : Bytes) : Except Fault (String × Bytes) := do
  let (content, rest) ← stringBytes bytes
  match Utf8.decode? content with
  | some s => .ok (s, rest)
  | none => .error .notUnicode

/-! ### Skipping -/

/-- Skips a string behind its opening quote. Escapes need only have the right
form. -/
def skipString : Bytes → Except Fault Bytes
  | [] => .error .endInString
  | 0x22 :: rest => .ok rest
  | 0x5C :: 0x75 :: a :: b :: c :: d :: rest =>
    match hexUnit? a b c d with
    | none => .error .badEscape
    | some _ => skipString rest
  | 0x5C :: 0x75 :: _ => .error .endInString
  | [0x5C] => .error .endInString
  | 0x5C :: b :: rest =>
    match simpleEscape? b with
    | some _ => skipString rest
    | none => .error .badEscape
  | b :: rest => if b < 0x20 then .error .controlCharacter else skipString rest

def skipExponent (bytes : Bytes) : Except Fault Bytes :=
  let digits :=
    match bytes with
    | 0x2B :: rest => rest
    | 0x2D :: rest => rest
    | _ => bytes
  if (leadingDigits digits).isEmpty then .error .badNumber else .ok (afterDigits digits)

/-- Skips what follows the integer digits of a number. -/
def skipFraction (bytes : Bytes) : Except Fault Bytes :=
  match bytes with
  | 0x2E :: rest =>
    if (leadingDigits rest).isEmpty then .error .badNumber
    else
      match afterDigits rest with
      | 0x65 :: more | 0x45 :: more => skipExponent more
      | more => .ok more
  | 0x65 :: rest | 0x45 :: rest => skipExponent rest
  | _ => .ok bytes

def skipNumber (bytes : Bytes) : Except Fault Bytes :=
  match bytes with
  | [] => .error .badNumber
  | b :: rest =>
    if b == 0x30 then
      if (rest.head?.map isDigit).getD false then .error .badNumber else skipFraction rest
    else if isDigit b then skipFraction (afterDigits bytes)
    else .error .badNumber

/-- A bracket that has been opened. -/
inductive Bracket where
  | list
  | object
deriving DecidableEq

/-- What may come next while skipping. -/
inductive Awaited where
  /-- A value. -/
  | value
  /-- The key of a member. -/
  | key
  /-- Whatever may follow a value. -/
  | next
  /-- Whatever may follow an opening bracket. -/
  | first

/-- Skips on from some point inside a value, given the brackets that are open
there. Every step uses up a byte or turns an opening bracket or a finished
value into the next expectation, so twice the length is fuel enough. -/
def skipFrom : Nat → Awaited → List Bracket → Bytes → Except Fault Bytes
  | 0, _, _, _ => .error .endInValue
  | fuel + 1, .value, stack, bytes =>
    match skipBlanks bytes with
    | [] => .error .endInValue
    | b :: rest =>
      if b == 0x6E then do skipFrom fuel .next stack (← word [0x75, 0x6C, 0x6C] rest)
      else if b == 0x74 then do skipFrom fuel .next stack (← word [0x72, 0x75, 0x65] rest)
      else if b == 0x66 then do skipFrom fuel .next stack (← word [0x61, 0x6C, 0x73, 0x65] rest)
      else if b == 0x2D then do skipFrom fuel .next stack (← skipNumber rest)
      else if isDigit b then do skipFrom fuel .next stack (← skipNumber (b :: rest))
      else if b == 0x22 then do skipFrom fuel .next stack (← skipString rest)
      else if b == 0x5B then skipFrom fuel .first (.list :: stack) rest
      else if b == 0x7B then skipFrom fuel .first (.object :: stack) rest
      else .error .noValue
  | fuel + 1, .key, stack, bytes =>
    match skipBlanks bytes with
    | [] => .error .endInObject
    | 0x22 :: rest => do
      match skipBlanks (← skipString rest) with
      | [] => .error .endInObject
      | 0x3A :: more => skipFrom fuel .value stack more
      | _ => .error .noColon
    | _ => .error .keyNotText
  | _ + 1, .next, [], bytes => .ok bytes
  | fuel + 1, .next, .list :: stack, bytes =>
    match skipBlanks bytes with
    | [] => .error .endInList
    | 0x2C :: rest => skipFrom fuel .value (.list :: stack) rest
    | 0x5D :: rest => skipFrom fuel .next stack rest
    | _ => .error .noCommaOrBracket
  | fuel + 1, .next, .object :: stack, bytes =>
    match skipBlanks bytes with
    | [] => .error .endInObject
    | 0x2C :: rest => skipFrom fuel .key (.object :: stack) rest
    | 0x7D :: rest => skipFrom fuel .next stack rest
    | _ => .error .noCommaOrBrace
  | _ + 1, .first, [], bytes => .ok bytes
  | fuel + 1, .first, .list :: stack, bytes =>
    match skipBlanks bytes with
    | [] => .error .endInList
    | 0x5D :: rest => skipFrom fuel .next stack rest
    | rest => skipFrom fuel .value (.list :: stack) rest
  | fuel + 1, .first, .object :: stack, bytes =>
    match skipBlanks bytes with
    | [] => .error .endInObject
    | 0x7D :: rest => skipFrom fuel .next stack rest
    | rest => skipFrom fuel .key (.object :: stack) rest

def skip (bytes : Bytes) : Except Fault Bytes :=
  skipFrom (2 * bytes.length + 2) .value [] bytes

/-! ### Lists and objects -/

/-- Goes to the next element of a list: `none` at the closing bracket, which is
left in place, and otherwise the text at the element. -/
def nextElement (first : Bool) (bytes : Bytes) : Except Fault (Option Bytes) :=
  match skipBlanks bytes with
  | [] => .error .endInList
  | 0x5D :: _ => .ok none
  | b :: rest =>
    if first then .ok (some (b :: rest))
    else if b == 0x2C then
      match skipBlanks rest with
      | [] => .error .endInValue
      | 0x5D :: _ => .error .trailingComma
      | more => .ok (some more)
    else .error .noCommaOrBracket

/-- Closes a list of which no more is wanted. -/
def closeList (bytes : Bytes) : Except Fault Bytes :=
  match skipBlanks bytes with
  | [] => .error .endInList
  | 0x5D :: rest => .ok rest
  | 0x2C :: rest =>
    match skipBlanks rest with
    | 0x5D :: _ => .error .trailingComma
    | _ => .error .trailingCharacters
  | _ => .error .trailingCharacters

/-- Goes to the next key of an object: `none` at the closing brace, which is
left in place, and otherwise the key and the text behind it. -/
def nextKey (first : Bool) (bytes : Bytes) : Except Fault (Option (String × Bytes)) :=
  match skipBlanks bytes with
  | [] => .error .endInObject
  | 0x7D :: _ => .ok none
  | b :: rest =>
    if first then
      if b == 0x22 then do .ok (some (← string rest)) else .error .keyNotText
    else if b == 0x2C then
      match skipBlanks rest with
      | [] => .error .endInValue
      | 0x22 :: more => do .ok (some (← string more))
      | 0x7D :: _ => .error .trailingComma
      | _ => .error .keyNotText
    else .error .noCommaOrBrace

/-- Passes the colon between a key and its value. -/
def passColon (bytes : Bytes) : Except Fault Bytes :=
  match skipBlanks bytes with
  | [] => .error .endInObject
  | 0x3A :: rest => .ok rest
  | _ => .error .noColon

/-- Closes an object whose members have all been read. -/
def closeObject (bytes : Bytes) : Except Fault Bytes :=
  match skipBlanks bytes with
  | [] => .error .endInObject
  | 0x7D :: rest => .ok rest
  | 0x2C :: _ => .error .trailingComma
  | _ => .error .trailingCharacters

/-- Opens a bracket, if one more level is allowed, and reads what is inside. -/
def nested {α : Type} (inside : Reader α) : Reader α
  | 0, _ | 1, _ => .error .tooDeep
  | depth + 2, bytes => inside (depth + 1) bytes

/-- The elements of a list from some point on. Each takes up a byte at least,
so the length of the text is fuel enough. -/
def elements {α : Type} (element : Reader α) (depth : Nat) :
    Nat → Bool → Bytes → Except Fault (List α × Bytes)
  | 0, _, _ => .error .endInList
  | fuel + 1, first, bytes => do
    match ← nextElement first bytes with
    | none => .ok ([], bytes)
    | some text =>
      let (head, rest) ← element depth text
      let (tail, rest) ← elements element depth fuel false rest
      .ok (head :: tail, rest)

def listBody {α : Type} (element : Reader α) : Reader (List α) := fun depth bytes => do
  let (all, rest) ← elements element depth (bytes.length + 1) true bytes
  .ok (all, ← closeList rest)

/-- The members of an object from some point on. What a member's value is read
as may depend on its key. -/
def members {α : Type} (member : String → Reader α) (depth : Nat) :
    Nat → Bool → Bytes → Except Fault (List (String × α) × Bytes)
  | 0, _, _ => .error .endInObject
  | fuel + 1, first, bytes => do
    match ← nextKey first bytes with
    | none => .ok ([], bytes)
    | some (key, text) =>
      let (head, rest) ← member key depth (← passColon text)
      let (tail, rest) ← members member depth fuel false rest
      .ok ((key, head) :: tail, rest)

def objectBody {α : Type} (member : String → Reader α) : Reader (List (String × α)) :=
  fun depth bytes => do
    let (all, rest) ← members member depth (bytes.length + 1) true bytes
    .ok (all, ← closeObject rest)

/-! ### Values -/

/-- One value of any kind, read with a fixed allowance of levels. -/
def valueWithin : (levels : Nat) → Bytes → Except Fault (Value × Bytes)
  | levels, bytes =>
    match skipBlanks bytes with
    | [] => .error .endInValue
    | b :: rest =>
      if b == 0x6E then do .ok (.null, ← word [0x75, 0x6C, 0x6C] rest)
      else if b == 0x74 then do .ok (.boolean true, ← word [0x72, 0x75, 0x65] rest)
      else if b == 0x66 then do .ok (.boolean false, ← word [0x61, 0x6C, 0x73, 0x65] rest)
      else if b == 0x2D || isDigit b then do
        let (n, rest) ← numeral (b :: rest)
        .ok (.number n, rest)
      else if b == 0x22 then do
        let (s, rest) ← string rest
        .ok (.text s, rest)
      else if b == 0x5B then
        match levels with
        | 0 => .error .tooDeep
        | inner + 1 => do
          let (all, rest) ← listBody (fun _ => valueWithin inner) inner rest
          .ok (.list all, rest)
      else if b == 0x7B then
        match levels with
        | 0 => .error .tooDeep
        | inner + 1 => do
          let (all, rest) ← objectBody (fun _ _ => valueWithin inner) inner rest
          .ok (.object (Members.ofPairs all), rest)
      else .error .noValue

def value : Reader Value := fun depth => valueWithin (depth - 1)

/-- The fault of meeting the value at the front of a text where `expected` was
wanted. A word, number or string is still read, so a fault inside it comes
first. -/
def unexpectedAt (expected : String) (bytes : Bytes) : Fault :=
  let finish (found : Except Fault Found) : Fault :=
    match found with
    | .ok f => .unexpected f expected
    | .error fault => fault
  match skipBlanks bytes with
  | [] => .endInValue
  | b :: rest =>
    if b == 0x6E then finish ((word [0x75, 0x6C, 0x6C] rest).map (fun _ => .null))
    else if b == 0x74 then finish ((word [0x72, 0x75, 0x65] rest).map (fun _ => .boolean true))
    else if b == 0x66 then
      finish ((word [0x61, 0x6C, 0x73, 0x65] rest).map (fun _ => .boolean false))
    else if b == 0x2D || isDigit b then
      finish ((numeral (b :: rest)).map (fun (n, _) => n.found))
    else if b == 0x22 then finish ((string rest).map (fun (s, _) => .text s))
    else if b == 0x5B then finish (.ok .list)
    else if b == 0x7B then finish (.ok .object)
    else .noValue

def textOf (expected : String) : Reader String := fun _ bytes =>
  match skipBlanks bytes with
  | 0x22 :: rest => string rest
  | _ => .error (unexpectedAt expected bytes)

def optional {α : Type} (reader : Reader α) : Reader (Option α) := fun depth bytes =>
  match skipBlanks bytes with
  | 0x6E :: rest => do .ok (none, ← word [0x75, 0x6C, 0x6C] rest)
  | _ => (reader depth bytes).map (fun (x, rest) => (some x, rest))

def listOf {α : Type} (element : Reader α) : Reader (List α) := fun depth bytes =>
  match skipBlanks bytes with
  | 0x5B :: rest => nested (listBody element) depth rest
  | _ => .error (unexpectedAt "a sequence" bytes)

/-- The members of an object in reading order, described as `expected` where
something else stands. -/
def membersOf {α : Type} (expected : String) (member : String → Reader α) :
    Reader (List (String × α)) := fun depth bytes =>
  match skipBlanks bytes with
  | 0x7B :: rest => nested (objectBody member) depth rest
  | _ => .error (unexpectedAt expected bytes)

/-- How many brackets may be open at once, and one more. -/
def depthLimit : Nat := 128

def whole {α : Type} (reader : Reader α) (bytes : Bytes) : Except Fault α := do
  let (x, rest) ← reader depthLimit bytes
  if (skipBlanks rest).isEmpty then .ok x else .error .trailingCharacters

end Json

end Vitae
