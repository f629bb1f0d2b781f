import Vitae.Layout.Page
import Vitae.Pdf.Literal
import Vitae.Pdf.Number

/-!
# The Contents of a Page

A page is drawn run by run. Each run is a group of its own that sets the font,
the color and the place before it shows the text, so the groups do not depend on
each other.

## Main definitions

* `runText`: The group that draws a run.
* `contents`: The groups that draw a page.
-/

namespace Vitae

namespace Pdf

/-- The channels of a color, with spaces between them. -/
def colorText (color : Rgb) : List Char :=
  let (r, g, b) := color.fractions
  number r ++ ' ' :: (number g ++ ' ' :: number b)

def runText (run : Run) : List Char :=
  "BT /".toList ++ run.face.resource.toList ++ ' ' :: number run.size ++ " Tf ".toList ++
    colorText run.color ++ " rg ".toList ++ number run.x ++ ' ' :: number run.y ++
    " Td (".toList ++ escapeChars run.text.toList ++ ") Tj ET\n".toList

def contents (page : Page) : List Char :=
  page.flatMap runText

end Pdf

end Vitae
