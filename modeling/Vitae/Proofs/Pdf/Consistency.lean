import Vitae.Proofs.Pdf.Reading
import Vitae.Proofs.Pdf.SevenBit
import Vitae.Proofs.Pdf.Table

/-!
# Files Are Consistent

What holds a file together are numbers that are written down while the file grows:
where objects begin, how long the contents of a page are, and which object belongs to
which. `Consistent` says that all of them are right, as a reader of the bytes finds
them: the objects are numbered from one and defined once, the table points at each of
them, the pages are listed in order, every page has its own contents, the contents
are as long as they claim, and no reference leads nowhere.

The numbers are counted in characters, so they are only right because a file is ASCII
throughout, and the objects are only the ones that were meant because escaping keeps
the text of a document inside its strings.

## Main definitions

* `body?`: The body of a numbered object.
* `Consistent`: What a reader of a file relies on.
* `bodies`, `front`, `rows`: The parts of a file that `Consistent` speaks about.

## Theorems

* `fileText_split`: What stands in front of an object and behind it.
* `body?_bodies`: The objects of a page among all objects.
* `consistent_encode`: A file that is not too long for its table is consistent.
-/

namespace Vitae

namespace Pdf

/-- The body of a numbered object, given all bodies from the first one on. -/
def body? (bodies : List (List Char)) (id : Nat) : Option (List Char) :=
  bodies[id - 1]?

/-- What a reader of a file relies on, given the bodies of its objects, the lines of
its table and the place where the table begins. -/
structure Consistent (text : List Char) (pages : List Page) (config : PageConfig)
    (bodies rows : List (List Char)) (table : Nat) : Prop where
  /-- In front of the table are the objects, numbered from one. -/
  objects : text.take table = fileHeader ++ blocks 1 bodies
  /-- The table lists as many objects as there are, and behind it stands where it begins. -/
  trailer : text.drop table =
    "xref\n0 ".toList ++ decimal (6 + 2 * pages.length) ++ "\n0000000000 65535 f \n".toList ++
      rows.flatten ++ "trailer\n<< /Size ".toList ++ decimal (6 + 2 * pages.length) ++
      " /Root 1 0 R /Info 5 0 R >>\nstartxref\n".toList ++ decimal table ++ "\n%%EOF\n".toList
  length_bodies : bodies.length = 5 + 2 * pages.length
  length_rows : rows.length = 5 + 2 * pages.length
  /-- The line of an object is the place where the object begins. -/
  row : ∀ i, ∀ h : i < bodies.length, ∃ place row rest,
    rows[i]? = some row ∧ IsRow place row ∧
      place = (fileHeader ++ blocks 1 (bodies.take i)).length ∧
      text.drop place = block (i + 1) bodies[i] ++ rest
  /-- Read as tokens, the file defines every object once. -/
  defined : definitions (tokens text) = (List.range' 1 (5 + 2 * pages.length)).map some
  /-- Every reference is to one of them. -/
  referred : ∀ target ∈ references (tokens text), target ∈ definitions (tokens text)
  /-- The list of pages has them all, in order. -/
  kids : body? bodies 2 = some ("<< /Type /Pages /Kids [".toList ++
    spaced ((List.range pages.length).map (fun i => ref (pageId i))) ++ "] /Count ".toList ++
    decimal pages.length ++ " >>".toList)
  /-- A page refers to the contents of the same number. -/
  page : ∀ i < pages.length, body? bodies (pageId i) =
    some ("<< /Type /Page /Parent 2 0 R /MediaBox [0 0 ".toList ++ number config.width ++
      ' ' :: number config.height ++
      "] /Resources << /Font << /F1 3 0 R /F2 4 0 R >> >> /Contents ".toList ++
      ref (contentsId i) ++ " >>".toList)
  /-- These are the contents of that page, and their length is the one they claim. -/
  stream : ∀ i, ∀ h : i < pages.length, body? bodies (contentsId i) =
    some ("<< /Length ".toList ++ decimal (contents pages[i]).length ++
      " >>\nstream\n".toList ++ contents pages[i] ++ "\nendstream".toList)
  /-- The mark behind a stream is found where the stream ends and no earlier. -/
  endstream : ∀ page ∈ pages, ∀ k < (contents page).length,
    ¬"\nendstream".toList <+: (contents page ++ "\nendstream".toList).drop k

section Objects

variable (pages : List Page) (title : String) (config : PageConfig)

/-- The bodies of the objects of a document. -/
def bodies : List (List Char) :=
  (objects pages title config).map FileObject.body

/-- What stands in front of the table. -/
def front : List Char :=
  fileHeader ++ blocks 1 (bodies pages title config)

/-- The lines of the table. -/
def rows : List (List Char) :=
  (offsets fileHeader.length (objects pages title config)).map tableLine

theorem length_bodies : (bodies pages title config).length = 5 + 2 * pages.length := by
  rw [bodies, List.length_map, length_objects]

theorem length_rows : (rows pages title config).length = 5 + 2 * pages.length := by
  rw [rows, List.length_map, length_offsets, length_objects]

theorem fileText_eq :
    fileText pages title config = front pages title config ++
      trailer (offsets fileHeader.length (objects pages title config))
        (front pages title config).length := by
  have hblocks := flatMap_objectText 1 _ (ids_objects pages title config)
  simp only [fileText]
  rw [hblocks]
  rfl

theorem fileText_split (i : Nat) (h : i < (bodies pages title config).length) :
    ∃ rest, fileText pages title config =
      fileHeader ++ blocks 1 ((bodies pages title config).take i) ++
        (block (i + 1) (bodies pages title config)[i] ++ rest) := by
  rw [fileText_eq]
  -- The table does not matter here, only that it comes last.
  generalize trailer _ (front pages title config).length = back
  refine ⟨blocks (i + 1 + 1) ((bodies pages title config).drop (i + 1)) ++ back, ?_⟩
  rw [front, blocks_split 1 _ i h, Nat.add_comm 1 i]
  simp only [List.append_assoc]

theorem getElem?_rows (i : Nat) (h : i < (bodies pages title config).length) :
    (rows pages title config)[i]? = some
      (tableLine (fileHeader ++ blocks 1 ((bodies pages title config).take i)).length) := by
  have hlt : i < (objects pages title config).length := by
    rw [bodies, List.length_map] at h
    exact h
  rw [rows, List.getElem?_map, getElem?_offsets _ _ _ hlt,
    flatMap_take_objectText 1 _ (ids_objects pages title config), ← List.length_append]
  rfl

theorem trailer_eq :
    trailer (offsets fileHeader.length (objects pages title config))
        (front pages title config).length =
      "xref\n0 ".toList ++ decimal (6 + 2 * pages.length) ++ "\n0000000000 65535 f \n".toList ++
        (rows pages title config).flatten ++ "trailer\n<< /Size ".toList ++
        decimal (6 + 2 * pages.length) ++
        " /Root 1 0 R /Info 5 0 R >>\nstartxref\n".toList ++
        decimal (front pages title config).length ++ "\n%%EOF\n".toList := by
  have hsize : (offsets fileHeader.length (objects pages title config)).length + 1 =
      6 + 2 * pages.length := by
    rw [length_offsets, length_objects, Nat.add_right_comm]
  unfold trailer
  simp only
  rw [hsize, List.flatMap_def]
  rfl

theorem body?_bodies {i : Nat} (h : i < pages.length) :
    body? (bodies pages title config) (pageId i) = some (pageObject config i).body ∧
      body? (bodies pages title config) (contentsId i) =
        some (contentsObject pages[i] i).body := by
  have hpages := getElem?_pageObjects config 0 pages i h
  -- The objects of pages come behind the five that every file has.
  have hskip : ∀ k, (objects pages title config)[5 + k]? = (pageObjects config 0 pages)[k]? := by
    intro k
    rw [objects, List.getElem?_append_right (Nat.le_add_right 5 k)]
    exact congrArg (getElem? _) (Nat.add_sub_cancel_left 5 k)
  have hpage : pageId i - 1 = 5 + 2 * i := by
    rw [pageId]
    omega
  have hcontents : contentsId i - 1 = 5 + (2 * i + 1) := by
    rw [contentsId]
    omega
  rw [Nat.zero_add] at hpages
  rw [body?, body?, bodies, hpage, hcontents, List.getElem?_map, List.getElem?_map, hskip, hskip,
    hpages.1, hpages.2]
  exact ⟨rfl, rfl⟩

end Objects

/-- A file that is not too long for its table is consistent, and all its bytes have
seven bits. -/
theorem consistent_encode (pages : List Page) (title : String) (config : PageConfig)
    (h : (encode pages title config).length < 10 ^ 10) :
    (∀ b ∈ encode pages title config, b < 0x80) ∧
      ∃ bodies rows table,
        Consistent (Utf8.characters (encode pages title config)) pages config bodies rows table := by
  have hascii := ascii_fileText pages title config
  refine ⟨fun b hb => Utf8.lt_of_mem_encode hascii hb, bodies pages title config,
    rows pages title config, (front pages title config).length, ?_⟩
  have htext : Utf8.characters (encode pages title config) = fileText pages title config :=
    Utf8.characters_encode hascii
  -- A byte for each character, so the bound is one on the characters.
  have hshort : (fileText pages title config).length < 10 ^ 10 := by
    rw [← Utf8.length_encode hascii]
    exact h
  have hnames := (passage_fileText pages title config).names
  rw [htext]
  exact {
    objects := by rw [fileText_eq, List.take_left]; rfl
    trailer := by rw [fileText_eq, List.drop_left, trailer_eq]
    length_bodies := length_bodies pages title config
    length_rows := length_rows pages title config
    row := by
      intro i hi
      rcases fileText_split pages title config i hi with ⟨rest, hsplit⟩
      refine ⟨_, _, rest, getElem?_rows pages title config i hi, isRow_tableLine ?_, rfl, ?_⟩
      · -- The object begins inside the file, so its place has no more than ten digits.
        rw [hsplit, List.length_append] at hshort
        exact Nat.lt_of_le_of_lt (Nat.le_add_right _ _) hshort
      · rw [hsplit, List.drop_left]
    defined := hnames.1
    referred := by
      intro target htarget
      rw [hnames.2] at htarget
      rcases List.mem_map.mp htarget with ⟨k, hk, rfl⟩
      rw [hnames.1]
      -- What is mentioned is within the numbers that are defined.
      have hle := le_of_mem_mentioned hk
      exact List.mem_map_of_mem (List.mem_range'_1.mpr ⟨hle.1, by omega⟩)
    kids := rfl
    page := fun i hi => (body?_bodies pages title config hi).1
    stream := fun i hi => (body?_bodies pages title config hi).2
    endstream := fun page _ k hk => endstream_not_in_contents page hk }

/-- A page whose text tries to end its string, its run and its stream, and to refer to
an object. -/
def trickyPage : Page :=
  [⟨54, 700.5, 10, .bold, ⟨255, 0, 0⟩, ") Tj ET\nendstream 12 0 R (\\ – é"⟩]

/-- Text that tries to break a file does not. -/
theorem consistent_encode_tricky :
    (encode [trickyPage] "a)b(" .standard).length < 10 ^ 10 ∧
      (∀ b ∈ encode [trickyPage] "a)b(" .standard, b < 0x80) ∧
      ∃ bodies rows table,
        Consistent (Utf8.characters (encode [trickyPage] "a)b(" .standard)) [trickyPage] .standard
          bodies rows table := by
  have hlength : (encode [trickyPage] "a)b(" .standard).length < 10 ^ 10 := by
    rw [encode, Utf8.length_encode (ascii_fileText _ _ _)]
    decide +kernel
  exact ⟨hlength, consistent_encode [trickyPage] "a)b(" .standard hlength⟩

end Pdf

end Vitae
