import Vitae.Text.Blank
import Vitae.Text.Quoted

/-!
# Colors

A color is chosen by name or by its three channels in hexadecimal, with two
digits for each or, in short, with one that counts twice. Case does not matter,
and neither does a single `#` in front of the digits.

## Main definitions

* `Rgb`: A color.
* `Rgb.ofText?`: The color a text names.
* `Rgb.parse`: The color a text names, or why it names none.
* `Rgb.hex`: A color in hexadecimal.
* `Rgb.fractions`: The channels on a scale from zero to one.
-/

namespace Vitae

/-- A color with three channels of eight bits. -/
structure Rgb where
  r : UInt8
  g : UInt8
  b : UInt8
deriving DecidableEq, Repr

/-- A text that names no color. -/
structure BadColor where
  text : String
deriving DecidableEq, Repr

/-- What is wrong with the name of a color. -/
def BadColor.message (bad : BadColor) : String :=
  "expected #rgb, #rrggbb or a color name, got " ++ Text.quoted bad.text

namespace Rgb

def named : List (String × Rgb) :=
  [ ("black", ⟨0x00, 0x00, 0x00⟩),
    ("navy", ⟨0x1F, 0x3A, 0x5F⟩),
    ("blue", ⟨0x1D, 0x4E, 0xD8⟩),
    ("teal", ⟨0x0F, 0x76, 0x6E⟩),
    ("green", ⟨0x15, 0x80, 0x3D⟩),
    ("maroon", ⟨0x7F, 0x1D, 0x1D⟩),
    ("red", ⟨0xB9, 0x1C, 0x1C⟩),
    ("purple", ⟨0x6D, 0x28, 0xD9⟩),
    ("orange", ⟨0xC2, 0x41, 0x0C⟩),
    ("gray", ⟨0x4B, 0x55, 0x63⟩) ]

/-- The value of a hexadecimal digit in lower case. -/
def digit? (c : Char) : Option UInt8 :=
  if '0' ≤ c ∧ c ≤ '9' then some (UInt8.ofNat (c.toNat - '0'.toNat))
  else if 'a' ≤ c ∧ c ≤ 'f' then some (UInt8.ofNat (c.toNat - 'a'.toNat + 10))
  else none

/-- The color that three or six hexadecimal digits denote. -/
def ofDigits? (digits : List UInt8) : Option Rgb :=
  match digits with
  | [r, g, b] => some ⟨r * 16 + r, g * 16 + g, b * 16 + b⟩
  | [r, r', g, g', b, b'] => some ⟨r * 16 + r', g * 16 + g', b * 16 + b'⟩
  | _ => none

/-- A list of characters without the `#` in front, if there is one. -/
def withoutHash : List Char → List Char
  | '#' :: rest => rest
  | cs => cs

/-- The color a list of lower-case characters names. -/
def ofLower? (cs : List Char) : Option Rgb :=
  match named.lookup (String.ofList cs) with
  | some color => some color
  | none => ((withoutHash cs).mapM digit?).bind ofDigits?

/-- The color a text names. Spaces around it do not matter, nor does case. -/
def ofText? (text : String) : Option Rgb :=
  ofLower? ((Text.trimChars text.toList).map Char.toLower)

/-- The color a text names, or why it names none. -/
def parse (text : String) : Except BadColor Rgb :=
  match ofText? text with
  | some color => .ok color
  | none => .error ⟨Text.trim text⟩

def digitChar (n : Nat) : Char :=
  (n % 16).digitChar

def channelHex (value : UInt8) : List Char :=
  [digitChar (value.toNat / 16), digitChar value.toNat]

def hex (color : Rgb) : String :=
  String.ofList ('#' :: (channelHex color.r ++ channelHex color.g ++ channelHex color.b))

/-- A channel on a scale from zero to one. -/
def fraction (value : UInt8) : Float32 :=
  value.toFloat32 / 255

def fractions (color : Rgb) : Float32 × Float32 × Float32 :=
  (fraction color.r, fraction color.g, fraction color.b)

end Rgb

end Vitae
