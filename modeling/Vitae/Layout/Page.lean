import Vitae.Style.Color
import Vitae.Style.Font

/-!
# Pages

A page is a list of runs of text, each at a place of its own. Places are given
in points from the lower left corner, and the height of a run is that of its
baseline.

## Main definitions

* `PageConfig`: The measures of a page and the sizes of its type.
* `Run`, `Page`: Text on a page.
-/

namespace Vitae

/-- The measures of a page and the sizes of its type, in points. -/
structure PageConfig where
  width : Float32
  height : Float32
  margin : Float32
  body : Float32
  heading : Float32
  name : Float32
  footer : Float32
  /-- The distance of two baselines as a multiple of the size of the type. -/
  leading : Float32

namespace PageConfig

/-- A letter page with margins of three quarters of an inch. -/
def standard : PageConfig where
  width := 612
  height := 792
  margin := 54
  body := 10
  heading := 12.5
  name := 20
  footer := 8
  leading := 1.3

def textWidth (page : PageConfig) : Float32 :=
  page.width - 2 * page.margin

/-- Where the text area begins. -/
def top (page : PageConfig) : Float32 :=
  page.height - page.margin

/-- The lowest baseline of the text area. The footer is below it. -/
def bottom (page : PageConfig) : Float32 :=
  page.margin + page.footer * page.leading * 2

/-- The distance from one baseline to the next at a size. -/
def lineHeight (page : PageConfig) (size : Float32) : Float32 :=
  size * page.leading

end PageConfig

/-- A run of text at a place. -/
structure Run where
  x : Float32
  y : Float32
  size : Float32
  face : Face
  color : Rgb
  text : String

/-- The runs on a page, in the order they were placed. -/
abbrev Page := List Run

end Vitae
