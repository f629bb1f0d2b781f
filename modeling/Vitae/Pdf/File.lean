import Vitae.Pdf.Content
import Vitae.Text.Utf8

/-!
# Files

A file is a header, a sequence of numbered objects, and a table that tells where
each of them begins. The first five objects are the same in every file: the
catalog, the list of pages, the two fonts and the document information. Two more
follow for each page, the page itself and its contents.

Everything is ASCII, so the place of an object is the number of characters in
front of it.

## Main definitions

* `FileObject`: A numbered object.
* `objects`: The objects of a document.
* `offsets`: Where each object begins.
* `fileText`: A whole file, as characters.
* `encode`: A whole file.
-/

namespace Vitae

namespace Pdf

def programVersion : String := "0.4.0"

/-- The program that a file says it was made by. -/
def producer : String := "json2pdf " ++ programVersion

/-- A numbered object. -/
structure FileObject where
  id : Nat
  body : List Char

def decimal (n : Nat) : List Char :=
  Nat.toDigits 10 n

/-- A reference to an object. -/
def ref (id : Nat) : List Char :=
  decimal id ++ " 0 R".toList

/-- The number of the object that holds a page, counting pages from zero. -/
def pageId (index : Nat) : Nat := 6 + 2 * index

/-- The number of the object that holds the contents of a page. -/
def contentsId (index : Nat) : Nat := 6 + 2 * index + 1

/-- Lists of characters with a space between any two. -/
def spaced : List (List Char) → List Char
  | [] => []
  | [x] => x
  | x :: rest => x ++ ' ' :: spaced rest

def catalog : FileObject :=
  ⟨1, "<< /Type /Catalog /Pages 2 0 R >>".toList⟩

def pageList (count : Nat) : FileObject :=
  ⟨2, "<< /Type /Pages /Kids [".toList ++
    spaced ((List.range count).map (fun i => ref (pageId i))) ++ "] /Count ".toList ++
    decimal count ++ " >>".toList⟩

def font (id : Nat) (face : Face) : FileObject :=
  ⟨id, "<< /Type /Font /Subtype /Type1 /BaseFont /".toList ++ face.fontName.toList ++
    " /Encoding /WinAnsiEncoding >>".toList⟩

def information (title : String) : FileObject :=
  ⟨5, "<< /Title (".toList ++ escapeChars title.toList ++ ") /Producer (".toList ++
    escapeChars producer.toList ++ ") >>".toList⟩

def pageObject (config : PageConfig) (index : Nat) : FileObject :=
  ⟨pageId index, "<< /Type /Page /Parent 2 0 R /MediaBox [0 0 ".toList ++
    number config.width ++ ' ' :: number config.height ++
    "] /Resources << /Font << /F1 3 0 R /F2 4 0 R >> >> /Contents ".toList ++
    ref (contentsId index) ++ " >>".toList⟩

def contentsObject (page : Page) (index : Nat) : FileObject :=
  let stream := contents page
  ⟨contentsId index, "<< /Length ".toList ++ decimal stream.length ++
    " >>\nstream\n".toList ++ stream ++ "\nendstream".toList⟩

/-- The objects of the pages from a page on. -/
def pageObjects (config : PageConfig) : Nat → List Page → List FileObject
  | _, [] => []
  | index, page :: rest =>
    pageObject config index :: contentsObject page index ::
      pageObjects config (index + 1) rest

def objects (pages : List Page) (title : String) (config : PageConfig) : List FileObject :=
  [catalog, pageList pages.length, font 3 .regular, font 4 .bold, information title] ++
    pageObjects config 0 pages

/-- An object as it stands in the file. -/
def objectText (object : FileObject) : List Char :=
  decimal object.id ++ " 0 obj\n".toList ++ object.body ++ "\nendobj\n".toList

def fileHeader : List Char := "%PDF-1.4\n".toList

def offsets (position : Nat) : List FileObject → List Nat
  | [] => []
  | object :: rest => position :: offsets (position + (objectText object).length) rest

/-- A number in ten decimal digits, or more if it needs them. -/
def tenDigits (n : Nat) : List Char :=
  let digits := decimal n
  List.replicate (10 - digits.length) '0' ++ digits

/-- The line of the table for an object that begins at an offset. -/
def tableLine (offset : Nat) : List Char :=
  tenDigits offset ++ " 00000 n \n".toList

/-- The table of objects and what follows it, given where the table begins. -/
def trailer (offsets : List Nat) (position : Nat) : List Char :=
  let size := decimal (offsets.length + 1)
  "xref\n0 ".toList ++ size ++ "\n0000000000 65535 f \n".toList ++
    offsets.flatMap tableLine ++ "trailer\n<< /Size ".toList ++ size ++
    " /Root 1 0 R /Info 5 0 R >>\nstartxref\n".toList ++ decimal position ++
    "\n%%EOF\n".toList

def fileText (pages : List Page) (title : String) (config : PageConfig) : List Char :=
  let objects := objects pages title config
  let body := fileHeader ++ objects.flatMap objectText
  body ++ trailer (offsets fileHeader.length objects) body.length

def encode (pages : List Page) (title : String) (config : PageConfig) : Bytes :=
  Utf8.encode (String.ofList (fileText pages title config))

end Pdf

end Vitae
