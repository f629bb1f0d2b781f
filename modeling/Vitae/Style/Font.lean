/-!
# Fonts

The two faces that text is set in, with the widths of their glyphs. Widths are
in thousandths of the type size and are known for the printable ASCII
characters; any other character is taken to be of average width.

A width is summed up in whole units before it is scaled to a size, so that it
does not depend on the order of the characters. The sum is kept in a machine
word, which runs over if a text has more than four million characters.

## Main definitions

* `Face`: The faces.
* `Face.widths`: The widths of the printable ASCII characters.
* `Face.units`: The width of a text in thousandths of the type size.
* `Face.measure`: The width of a text at a size.

## Theorems

* `Face.length_widths`: Every printable ASCII character has a width.
-/

namespace Vitae

/-- The faces text is set in. -/
inductive Face where
  | regular
  | bold
deriving DecidableEq, Repr

namespace Face

/-- The name of the font that provides a face. -/
def fontName : Face → String
  | .regular => "Helvetica"
  | .bold => "Helvetica-Bold"

/-- The name by which a page refers to a face. -/
def resource : Face → String
  | .regular => "F1"
  | .bold => "F2"

/-- The widths of the characters from the blank to the tilde. -/
def widths : Face → List UInt32
  | .regular =>
    [ 278, 278, 355, 556, 556, 889, 667, 191, 333, 333, 389, 584, 278, 333, 278, 278,
      556, 556, 556, 556, 556, 556, 556, 556, 556, 556,
      278, 278, 584, 584, 584, 556, 1015,
      667, 667, 722, 722, 667, 611, 778, 722, 278, 500, 667, 556, 833,
      722, 778, 667, 778, 722, 667, 611, 722, 667, 944, 667, 667, 611,
      278, 278, 278, 469, 556, 333,
      556, 556, 500, 556, 556, 278, 556, 556, 222, 222, 500, 222, 833,
      556, 556, 556, 556, 333, 500, 278, 556, 500, 722, 500, 500, 500,
      334, 260, 334, 584 ]
  | .bold =>
    [ 278, 333, 474, 556, 556, 889, 722, 238, 333, 333, 389, 584, 278, 333, 278, 278,
      556, 556, 556, 556, 556, 556, 556, 556, 556, 556,
      333, 333, 584, 584, 584, 611, 975,
      722, 722, 722, 722, 667, 611, 778, 722, 278, 556, 722, 611, 833,
      722, 778, 667, 778, 722, 667, 611, 722, 667, 944, 667, 667, 611,
      333, 278, 333, 584, 556, 333,
      556, 611, 556, 611, 556, 333, 611, 611, 278, 278, 556, 278, 889,
      611, 611, 611, 611, 389, 556, 333, 611, 556, 778, 556, 556, 500,
      389, 280, 389, 584 ]

theorem length_widths (face : Face) : face.widths.length = 95 := by
  cases face <;> rfl

/-- The width of a character that has none of its own. -/
def averageWidth : Face → UInt32
  | .regular => 520
  | .bold => 560

def spaceWidth : Face → UInt32
  | .regular => 278
  | .bold => 278

/-- The width of a character in thousandths of the type size. -/
def charUnits (face : Face) (c : Char) : UInt32 :=
  if c.toNat < 32 then face.averageWidth
  else (face.widths[c.toNat - 32]?).getD face.averageWidth

/-- The width of a list of characters in thousandths of the type size. The sum
is kept in a machine word. -/
def unitsOf (face : Face) (cs : List Char) : UInt32 :=
  cs.foldl (fun total c => total + face.charUnits c) 0

/-- The width of a text in thousandths of the type size. -/
def units (face : Face) (text : String) : UInt32 :=
  face.unitsOf text.toList

/-- A width in thousandths of the type size, scaled to a size. -/
def scaled (units : UInt32) (size : Float32) : Float32 :=
  units.toFloat32 * size / 1000

def measure (face : Face) (text : String) (size : Float32) : Float32 :=
  scaled (face.units text) size

/-- The width of the space between words at a size. -/
def space (face : Face) (size : Float32) : Float32 :=
  scaled face.spaceWidth size

end Face

end Vitae
