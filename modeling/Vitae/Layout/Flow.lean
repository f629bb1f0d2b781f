import Vitae.Layout.Page

/-!
# Flowing onto Pages

A document is a sequence of rows and gaps before it is anything on paper. What
a row looks like and where its texts stand from left to right is settled by
then; only the height is not. Flowing takes the elements one by one from top to
bottom, and begins a new page when a row would go below the text area. A page
without a row is never left, so a row that is too high for any page still gets
one.

Keeping the two apart means that nothing about the page can change what is
written, only where.

## Main definitions

* `Cell`, `Element`: What flows.
* `Flow`: How far the flow has come.
* `Flow.put`: The flow after one more element.
* `flow`: The pages that a list of elements fills.
-/

namespace Vitae

/-- A text in a row. -/
structure Cell where
  x : Float32
  face : Face
  color : Rgb
  text : String

/-- What flows onto pages. -/
inductive Element where
  /-- Vertical space, as a fraction of a line of the body. -/
  | gap (fraction : Float32)
  /-- Texts that share a baseline. -/
  | row (size : Float32) (cells : List Cell)

/-- How far the flow has come. -/
structure Flow where
  full : List Page
  /-- The page being filled. -/
  current : Page
  /-- The height of the last baseline. -/
  cursor : Float32

namespace Flow

/-- The beginning of the first page. -/
def start (page : PageConfig) : Flow := ⟨[], [], page.top⟩

/-- The run a text in a row becomes. -/
def runAt (y size : Float32) (cell : Cell) : Run :=
  ⟨cell.x, y, size, cell.face, cell.color, cell.text⟩

/-- The flow with the cursor moved down for a row, on a new page if the row
would go below the text area. -/
def advance (page : PageConfig) (size : Float32) (state : Flow) : Flow :=
  let next := state.cursor - page.lineHeight size
  if next < page.bottom ∧ state.current ≠ [] then
    ⟨state.full ++ [state.current], [], page.top - page.lineHeight size⟩
  else { state with cursor := next }

def put (page : PageConfig) (state : Flow) : Element → Flow
  | .gap fraction =>
    { state with cursor := state.cursor - page.lineHeight page.body * fraction }
  | .row size cells =>
    let state := advance page size state
    { state with current := state.current ++ cells.map (runAt state.cursor size) }

/-- The pages so far. There is always at least one. -/
def pages (state : Flow) : List Page :=
  if state.current ≠ [] ∨ state.full = [] then state.full ++ [state.current]
  else state.full

end Flow

def flow (page : PageConfig) (elements : List Element) : List Page :=
  (elements.foldl (Flow.put page) (Flow.start page)).pages

end Vitae
