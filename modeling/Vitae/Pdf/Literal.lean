/-!
# Literal Strings

Text inside a file stands between parentheses, one byte for each character, in
the encoding that the fonts are declared with: ASCII, the upper half of
Latin-1, and a few punctuation marks in between. A character that has no byte
becomes a question mark. Bytes that are not printable ASCII are written as three
octal digits behind a backslash, and a backslash also goes in front of
parentheses and of backslashes, so nothing inside can end the string.

## Main definitions

* `punctuationByte?`: The bytes of the punctuation marks.
* `octal`: A byte as three octal digits behind a backslash.
* `escapeChar`: A character as it is written.
* `escape`: A text as it is written, without the parentheses.
-/

namespace Vitae

namespace Pdf

/-- The byte of a punctuation mark that is neither ASCII nor Latin-1. -/
def punctuationByte? (c : Char) : Option Nat :=
  match c with
  | '\u2018' => some 0x91
  | '\u2019' => some 0x92
  | '\u201C' => some 0x93
  | '\u201D' => some 0x94
  | '\u2022' => some 0x95
  | '\u2013' => some 0x96
  | '\u2014' => some 0x97
  | '\u2026' => some 0x85
  | '\u20AC' => some 0x80
  | _ => none

def octal (byte : Nat) : List Char :=
  ['\\', (byte / 64 % 8).digitChar, (byte / 8 % 8).digitChar, (byte % 8).digitChar]

def escapeChar (c : Char) : List Char :=
  if c = '(' ∨ c = ')' ∨ c = '\\' then ['\\', c]
  else if ' ' ≤ c ∧ c ≤ '~' then [c]
  else if '\u00a0' ≤ c ∧ c ≤ '\u00ff' then octal c.toNat
  else
    match punctuationByte? c with
    | some byte => octal byte
    | none => ['?']

/-- A list of characters as it is written. -/
def escapeChars (cs : List Char) : List Char :=
  cs.flatMap escapeChar

def escape (text : String) : String :=
  String.ofList (escapeChars text.toList)

end Pdf

end Vitae
