import Vitae.Document.Kind
import Vitae.Layout.Flow
import Vitae.Layout.Wrap
import Vitae.Style.Options
import Vitae.Text.Uppercase

/-!
# Composing a Document

What a document looks like: a centered header with name, titles and contacts,
the sections with their items, and a footer on every page that counts the
pages. The sections become elements for the flow; the footers are put on the
pages once their number is known.

In a cover letter the names of the sections are not shown, and the distance
between paragraphs is that between sections.

## Main definitions

* `Composer`: What the look of every part depends on.
* `Composer.elements`: The elements of a document.
* `Composer.withFooters`: Pages with a footer on each.
* `compose`: The pages of a document.
-/

namespace Vitae

/-- What the look of every part depends on. -/
structure Composer where
  page : PageConfig
  options : Options

namespace Composer

/-- The colors of the document. -/
def palette (c : Composer) : Palette :=
  .ofOptions c.options

/-- The face of what stands out in an item. -/
def emphasis (c : Composer) : Face :=
  if c.options.content.bold then .bold else .regular

/-- A value, or zero if it is negative. What is no number counts as zero. -/
def atLeastZero (v : Float32) : Float32 :=
  if 0 < v then v else 0

/-- A row of one text at the left margin. -/
def line (c : Composer) (text : String) (size : Float32) (face : Face) (color : Rgb) : Element :=
  .row size [⟨c.page.margin, face, color, text⟩]

/-- A row of one text in the middle. A text that is too wide begins at the left
margin. -/
def centered (c : Composer) (text : String) (size : Float32) (face : Face) (color : Rgb) :
    Element :=
  let room := (c.page.textWidth - face.measure text size) / 2
  .row size [⟨c.page.margin + atLeastZero room, face, color, text⟩]

/-- A row of a text at the left margin and another one at the right margin, if
there is one. -/
def split (c : Composer) (left : String) (leftFace : Face) (right : String) (color : Rgb) :
    Element :=
  let size := c.page.body
  let tag : List Cell :=
    if right.isEmpty then []
    else
      [⟨c.page.width - c.page.margin - Face.regular.measure right size, .regular,
        c.palette.muted, right⟩]
  .row size (⟨c.page.margin, leftFace, color, left⟩ :: tag)

/-- The rows of running text that begins `indent` points to the right of the
margin, with `mark` in front of the first row. Blank text has no rows and so no
mark. -/
def indented (c : Composer) (text : String) (face : Face) (color : Rgb) (indent : Float32)
    (mark : List Cell) : List Element :=
  let cell (line : String) : Cell := ⟨c.page.margin + indent, face, color, line⟩
  match wrap face text c.page.body (c.page.textWidth - indent) with
  | [] => []
  | first :: rest =>
    .row c.page.body (mark ++ [cell first]) ::
      rest.map (fun line => .row c.page.body [cell line])

/-- The rows of running text. -/
def block (c : Composer) (text : String) (face : Face) (color : Rgb) : List Element :=
  c.indented text face color 0 []

/-- The mark in front of a particular. -/
def bullet : String := "-"

/-- The rows of a particular, with a mark in front of the first. -/
def bulleted (c : Composer) (text : String) (color : Rgb) : List Element :=
  c.indented text .regular color (Face.regular.measure bullet c.page.body + 4)
    [⟨c.page.margin, .regular, color, bullet⟩]

/-- The header: the name, the titles and the contacts, as far as there are
any. -/
def header (c : Composer) (personal : Personal) : List Element :=
  let name : List Element :=
    match personal.name with
    | some name =>
      if Text.isBlank name then [] else [c.centered name c.page.name .bold c.palette.accent]
    | none => []
  let titles := personal.titles.filter (fun t => !Text.isBlank t)
  let contacts := personal.contacts
  name ++
    (if titles.isEmpty then []
      else [c.centered (" | ".intercalate titles) c.page.body .regular c.palette.text]) ++
    (if contacts.isEmpty then []
      else
        [c.centered (" | ".intercalate contacts) (c.page.body * 0.9) .regular
          c.palette.muted])

def item (c : Composer) : Item → List Element
  | .paragraph text => c.block text .regular c.palette.text
  | .skill category content => c.block (category ++ ": " ++ content) c.emphasis c.palette.text
  | .entry title subtitle btag ttag details =>
    c.split title c.emphasis btag c.palette.text ::
      c.split subtitle .regular ttag c.palette.muted ::
      details.flatMap (fun detail => c.bulleted detail c.palette.text)
  | .honor title subtitle ltag rtag =>
    let what := title ++ ", " ++ subtitle
    let left := if ltag.isEmpty then what else ltag ++ "  " ++ what
    [c.split left c.emphasis rtag c.palette.text]

/-- A paragraph of a cover letter. Nothing else has a place in one. -/
def paragraph (c : Composer) : Item → List Element
  | .paragraph text => c.block text .regular c.palette.text
  | _ => []

/-- The elements of several things with the same element between any two. -/
def separated {α : Type} (between : List Element) (one : α → List Element) :
    List α → List Element
  | [] => []
  | [x] => one x
  | x :: rest => one x ++ between ++ separated between one rest

def cvSection (c : Composer) (s : Section) : List Element :=
  c.line (Text.uppercase s.name) c.page.heading .bold c.palette.accent ::
    separated (if c.options.style.spaced then [.gap 0.4] else []) c.item s.items

def letterSection (c : Composer) (s : Section) : List Element :=
  separated [.gap (if c.options.style.spaced then 0.8 else 0.4)] c.paragraph s.items

/-- A section of a document of the given kind. -/
def sectionOf (c : Composer) : Kind → Section → List Element
  | .cv => c.cvSection
  | .coverLetter => c.letterSection

/-- The elements of a document. There is a gap between any two sections, and
one below the header. -/
def elements (c : Composer) (kind : Kind) (document : Document) : List Element :=
  let sections := separated [.gap 0.8] (c.sectionOf kind) document.sections
  if c.options.style.header then
    c.header (effectivePersonal document.personal c.options) ++
      (if document.sections.isEmpty then [] else .gap 0.8 :: sections)
  else sections

def footerText (label : String) (number total : Nat) : String :=
  let count := "Page " ++ toString number ++ " of " ++ toString total
  if label.isEmpty then count else label ++ " · " ++ count

def footer (c : Composer) (label : String) (number total : Nat) : Run :=
  let text := footerText label number total
  let size := c.page.footer
  { x := c.page.margin + (c.page.textWidth - Face.regular.measure text size) / 2
    y := c.page.margin
    size := size
    face := .regular
    color := c.palette.muted
    text := text }

/-- Pages with a footer on each, counting from `number`. -/
def footersFrom (c : Composer) (label : String) (total : Nat) : Nat → List Page → List Page
  | _, [] => []
  | number, page :: rest =>
    (page ++ [c.footer label number total]) :: footersFrom c label total (number + 1) rest

def withFooters (c : Composer) (label : String) (pages : List Page) : List Page :=
  c.footersFrom label pages.length 1 pages

end Composer

def compose (document : Document) (kind : Kind) (options : Options) (page : PageConfig) :
    List Page :=
  let c : Composer := ⟨page, options⟩
  let pages := flow page (c.elements kind document)
  if options.style.footer then
    c.withFooters ((effectivePersonal document.personal options).name.getD "") pages
  else pages

end Vitae
