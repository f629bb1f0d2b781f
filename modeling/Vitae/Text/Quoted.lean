import Vitae.Text.Printable

/-!
# Quoted Text

How a text is shown inside a message: between double quotes, with everything
that could be mistaken or overlooked written as an escape. A message can then
name a section called `a` followed by a line break without breaking the line,
and two texts that differ only in an invisible character are shown apart.

The quote and the backslash are escaped, the four usual controls have a letter
each, and every other hidden character is written as its code point in
hexadecimal, without padding.

## Main definitions

* `hexDigits`: A number in lower-case hexadecimal.
* `escapeChar`: One character as it stands between the quotes.
* `quoted`: A whole text, quotes included.
-/

namespace Vitae

namespace Text

def hexDigits (n : Nat) : List Char :=
  Nat.toDigits 16 n

def escapeChar (c : Char) : List Char :=
  if c = '"' then ['\\', '"']
  else if c = '\\' then ['\\', '\\']
  else if c = '\n' then ['\\', 'n']
  else if c = '\r' then ['\\', 'r']
  else if c = '\t' then ['\\', 't']
  else if c = '\x00' then ['\\', '0']
  else if isPrintable c then [c]
  else ['\\', 'u', '\x7b'] ++ hexDigits c.toNat ++ ['\x7d']

def quoted (s : String) : String :=
  String.ofList ('"' :: s.toList.flatMap escapeChar ++ ['"'])

end Text

end Vitae
