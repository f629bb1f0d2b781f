import Vitae.Proofs.Pdf.Mention

/-!
# Reading a File

A file read as tokens defines its objects by ascending number, each one once, and
refers to no other. What it refers to is known exactly: the catalog refers to the list
of pages, the list to every page, a page to the list, to both fonts and to its
contents, and the end of the file to the catalog and to the document information.

Each part of the file is a passage of its own. The parts that hold text are passages
whatever the text is, which is the point of escaping it.

## Main definitions

* `mentioned`: The objects that a file of so many pages refers to.
* `tableText`, `closingText`: What stands behind the objects, in two parts.

## Theorems

* `passage_runText`, `passage_contents`: Contents name no object.
* `passage_objectText`: An object defines its number and refers to what its body does.
* `passage_information`: The document information names no object.
* `passage_pageObjects`: What the objects of pages define and refer to.
* `passage_fileText`: What a file defines and refers to.
* `le_of_mem_mentioned`: A file refers to its own objects only.
-/

namespace Vitae

namespace Pdf

/-- A run names no object, whatever its text is. -/
theorem passage_runText (run : Run) : Passage [] [] (runText run) := by
  have hface : Passage [] [] ("BT /".toList ++ run.face.resource.toList ++ [' ']) := by
    cases run.face <;> exact .of_read (by decide)
  have htf : Passage [] [] " Tf ".toList := .of_read (by decide)
  have hrg : Passage [] [] " rg ".toList := .of_read (by decide)
  have htd : Passage [] [] " Td ".toList := .of_read (by decide)
  have htj : Passage [] [] " Tj ET\n".toList := .of_read (by decide)
  -- The group is put together from its end, so that every numeral meets what ends it.
  have htext := htd.append (htj.literal run.text.toList)
  have hy := htext.word (isNumeral_number run.y) rfl
  have hx := hy.space.word (isNumeral_number run.x) rfl
  have hblue := (hrg.append hx).word (isNumeral_number run.color.fractions.2.2) rfl
  have hgreen := hblue.space.word (isNumeral_number run.color.fractions.2.1) rfl
  have hred := hgreen.space.word (isNumeral_number run.color.fractions.1) rfl
  have hsize := (htf.append hred).word (isNumeral_number run.size) rfl
  have hopening : " Td (".toList = " Td ".toList ++ ['('] := rfl
  have hclosing : ") Tj ET\n".toList = ')' :: " Tj ET\n".toList := rfl
  unfold runText colorText
  rw [hopening, hclosing]
  simpa only [List.append_assoc, List.cons_append, List.nil_append] using hface.append hsize

theorem passage_contents (page : Page) : Passage [] [] (contents page) :=
  Passage.flatMap fun run _ => passage_runText run

theorem passage_spaced (ids : List Nat) {d m : List Nat} {rest : List Char}
    (hbreak : breaks rest = true) (h : Passage d m rest) :
    Passage d (ids ++ m) (spaced (ids.map ref) ++ rest) := by
  induction ids with
  | nil => exact h
  | cons id more ih =>
      cases more with
      | nil => exact h.ref id hbreak
      | cons next others =>
          -- A space ends the first reference, and the others follow.
          have hcons : spaced ((id :: next :: others).map ref) ++ rest =
              ref id ++ ' ' :: (spaced ((next :: others).map ref) ++ rest) :=
            List.append_assoc _ _ _
          rw [hcons]
          exact ih.space.ref id rfl

/-- An object defines its number and refers to what its body refers to. -/
theorem passage_objectText (object : FileObject) {m : List Nat}
    (h : Passage [] m (object.body ++ "\nendobj\n".toList)) :
    Passage [object.id] m (objectText object) := by
  rw [objectText, List.append_assoc]
  exact (Passage.head object.id).append h

/-- How a dictionary ends that is all of its object. -/
theorem passage_ending : Passage [] [] " >>\nendobj\n".toList :=
  .of_read (by decide)

theorem passage_catalog : Passage [1] [2] (objectText catalog) :=
  passage_objectText catalog (.of_read (by decide))

theorem passage_pageList (count : Nat) :
    Passage [2] ((List.range count).map pageId) (objectText (pageList count)) := by
  have hkids : Passage [] [] "<< /Type /Pages /Kids [".toList := .of_read (by decide)
  have hcount : Passage [] [] "] /Count ".toList := .of_read (by decide)
  have hnumber := hcount.append (passage_ending.word (isNumeral_decimal count) rfl)
  have hall := hkids.append (passage_spaced ((List.range count).map pageId) rfl hnumber)
  have hclosing : " >>".toList ++ "\nendobj\n".toList = " >>\nendobj\n".toList := rfl
  have hrefs : ((List.range count).map pageId).map ref =
      (List.range count).map (fun i => ref (pageId i)) := List.map_map
  refine passage_objectText (pageList count) ?_
  rw [pageList, List.append_assoc, hclosing, ← hrefs]
  simpa only [List.append_assoc, List.append_nil, List.nil_append] using hall

theorem passage_font (id : Nat) (face : Face) : Passage [id] [] (objectText (font id face)) := by
  have hbody : Passage [] [] ((font 0 face).body ++ "\nendobj\n".toList) := by
    cases face <;> exact .of_read (by decide)
  exact passage_objectText (font id face) hbody

/-- The document information names no object, whatever the title is. -/
theorem passage_information (title : String) :
    Passage [5] [] (objectText (information title)) := by
  have htitle : Passage [] [] "<< /Title ".toList := .of_read (by decide)
  have hproducer : Passage [] [] " /Producer ".toList := .of_read (by decide)
  -- Both texts are strings, so only what is around them is looked at.
  have hall := htitle.append
    ((hproducer.append (passage_ending.literal producer.toList)).literal title.toList)
  have hfirst : "<< /Title (".toList = "<< /Title ".toList ++ ['('] := rfl
  have hsecond : ") /Producer (".toList = ')' :: (" /Producer ".toList ++ ['(']) := rfl
  have hclosing : ") >>".toList ++ "\nendobj\n".toList = ')' :: " >>\nendobj\n".toList := rfl
  refine passage_objectText (information title) ?_
  rw [information, List.append_assoc, hclosing, hfirst, hsecond]
  simpa only [List.append_assoc, List.cons_append, List.nil_append] using hall

theorem passage_pageObject (config : PageConfig) (index : Nat) :
    Passage [pageId index] [2, 3, 4, contentsId index]
      (objectText (pageObject config index)) := by
  have hbox : Passage [] [2] "<< /Type /Page /Parent 2 0 R /MediaBox [0 0 ".toList :=
    .of_read (by decide)
  have hfonts : Passage [] [3, 4]
      "] /Resources << /Font << /F1 3 0 R /F2 4 0 R >> >> /Contents ".toList :=
    .of_read (by decide)
  -- From the end: the contents, the fonts, the size of the page and its parent.
  have hcontents := hfonts.append (passage_ending.ref (contentsId index) rfl)
  have hheight := hcontents.word (isNumeral_number config.height) rfl
  have hwidth := hheight.space.word (isNumeral_number config.width) rfl
  have hclosing : " >>".toList ++ "\nendobj\n".toList = " >>\nendobj\n".toList := rfl
  refine passage_objectText (pageObject config index) ?_
  rw [pageObject, List.append_assoc, hclosing]
  simpa only [List.append_assoc, List.cons_append, List.nil_append] using hbox.append hwidth

theorem passage_contentsObject (page : Page) (index : Nat) :
    Passage [contentsId index] [] (objectText (contentsObject page index)) := by
  have hlength : Passage [] [] "<< /Length ".toList := .of_read (by decide)
  have hstream : Passage [] [] " >>\nstream\n".toList := .of_read (by decide)
  have hend : Passage [] [] "\nendstream\nendobj\n".toList := .of_read (by decide)
  -- A stream is read like the rest of the file, and it names nothing.
  have hdata := hstream.append ((passage_contents page).append hend)
  have hall := hlength.append (hdata.word (isNumeral_decimal (contents page).length) rfl)
  have hclosing : "\nendstream".toList ++ "\nendobj\n".toList =
      "\nendstream\nendobj\n".toList := rfl
  refine passage_objectText (contentsObject page index) ?_
  simp only [contentsObject, List.append_assoc]
  rw [hclosing]
  exact hall

/-- The objects that a file of so many pages refers to, in the order of the file. -/
def mentioned (count : Nat) : List Nat :=
  2 :: (List.range count).map pageId ++
    (List.range count).flatMap (fun i => [2, 3, 4, contentsId i]) ++ [1, 5]

theorem passage_pageObjects (config : PageConfig) (index : Nat) (pages : List Page) :
    Passage (List.range' (pageId index) (2 * pages.length))
      ((List.range' index pages.length).flatMap (fun i => [2, 3, 4, contentsId i]))
      ((pageObjects config index pages).flatMap objectText) := by
  induction pages generalizing index with
  | nil => exact Passage.nil
  | cons page rest ih =>
      -- A page has two objects, with two numbers in a row.
      have htwo : List.range' (pageId index) (2 * (page :: rest).length) =
          pageId index :: contentsId index :: List.range' (pageId (index + 1)) (2 * rest.length) := by
        rw [List.length_cons, Nat.mul_succ, List.range'_succ, List.range'_succ]
        rfl
      rw [htwo, List.length_cons, List.range'_succ]
      exact (passage_pageObject config index).append
        ((passage_contentsObject page index).append (ih (index + 1)))

/-- The table of objects, with all that follows up to the document information. -/
def tableText (offsets : List Nat) : List Char :=
  let size := decimal (offsets.length + 1)
  "xref\n0 ".toList ++ size ++ "\n0000000000 65535 f \n".toList ++
    offsets.flatMap tableLine ++ "trailer\n<< /Size ".toList ++ size ++ " /Root 1 0 R ".toList

/-- The end of a file, where it names the document information. -/
def closingText (position : Nat) : List Char :=
  "/Info 5 0 R >>\nstartxref\n".toList ++ decimal position ++ "\n%%EOF\n".toList

theorem trailer_split (offsets : List Nat) (position : Nat) :
    trailer offsets position = tableText offsets ++ closingText position := by
  have hroot : " /Root 1 0 R /Info 5 0 R >>\nstartxref\n".toList =
      " /Root 1 0 R ".toList ++ "/Info 5 0 R >>\nstartxref\n".toList := rfl
  unfold trailer tableText closingText
  simp only [hroot, List.append_assoc]

theorem passage_tableText (offsets : List Nat) : Passage [] [1] (tableText offsets) := by
  have hroot : Passage [] [1] " /Root 1 0 R ".toList := .of_read (by decide)
  have hsize : Passage [] [] "trailer\n<< /Size ".toList := .of_read (by decide)
  have hfree : Passage [] [] "\n0000000000 65535 f \n".toList := .of_read (by decide)
  have hxref : Passage [] [] "xref\n0 ".toList := .of_read (by decide)
  have hline : Passage [] [] " 00000 n \n".toList := .of_read (by decide)
  have hlines : Passage [] [] (offsets.flatMap tableLine) :=
    Passage.flatMap fun n _ => hline.word (isNumeral_tenDigits n) rfl
  -- No line of the table holds a keyword.
  have hentries := hsize.append (hroot.word (isNumeral_decimal (offsets.length + 1)) rfl)
  have hall := hxref.append
    ((hfree.append (hlines.append hentries)).word (isNumeral_decimal (offsets.length + 1)) rfl)
  unfold tableText
  simpa only [List.append_assoc, List.nil_append] using hall

theorem passage_closingText (position : Nat) : Passage [] [5] (closingText position) := by
  have hinfo : Passage [] [5] "/Info 5 0 R >>\nstartxref\n".toList := .of_read (by decide)
  have hend : Passage [] [] "\n%%EOF\n".toList := .of_read (by decide)
  have hall := hinfo.append (hend.word (isNumeral_decimal position) rfl)
  unfold closingText
  simpa only [List.append_assoc, List.append_nil] using hall

theorem passage_trailer (offsets : List Nat) (position : Nat) :
    Passage [] [1, 5] (trailer offsets position) := by
  rw [trailer_split]
  exact (passage_tableText offsets).append (passage_closingText position)

/-- A file defines its objects by ascending number and refers to no other. -/
theorem passage_fileText (pages : List Page) (title : String) (config : PageConfig) :
    Passage (List.range' 1 (5 + 2 * pages.length)) (mentioned pages.length)
      (fileText pages title config) := by
  have hheader : Passage [] [] fileHeader := .of_read (by decide)
  have hfixed := passage_catalog.append ((passage_pageList pages.length).append
    ((passage_font 3 .regular).append ((passage_font 4 .bold).append (passage_information title))))
  have hpages := passage_pageObjects config 0 pages
  rw [← List.range_eq_range'] at hpages
  have hall := (hheader.append (hfixed.append hpages)).append
    (passage_trailer (offsets fileHeader.length (objects pages title config))
      (fileHeader ++ (objects pages title config).flatMap objectText).length)
  -- The numbers of the fixed objects and those of the pages meet.
  have hids : [1, 2, 3, 4, 5] ++ List.range' (pageId 0) (2 * pages.length) =
      List.range' 1 (5 + 2 * pages.length) := by
    rw [← List.range'_append_1]
    rfl
  have htext : (objects pages title config).flatMap objectText =
      objectText catalog ++ (objectText (pageList pages.length) ++ (objectText (font 3 .regular) ++
        (objectText (font 4 .bold) ++ objectText (information title)))) ++
        (pageObjects config 0 pages).flatMap objectText := by
    rw [objects, List.flatMap_append]
    simp only [List.flatMap_cons, List.flatMap_nil, List.append_nil]
  rw [← htext] at hall
  rw [← hids, mentioned]
  simpa only [fileText, List.append_assoc, List.append_nil, List.nil_append, List.cons_append]
    using hall

/-- A file refers to its own objects only. -/
theorem le_of_mem_mentioned {count k : Nat} (h : k ∈ mentioned count) :
    1 ≤ k ∧ k ≤ 5 + 2 * count := by
  simp only [mentioned, List.cons_append, List.mem_cons, List.mem_append, List.mem_map,
    List.mem_range, List.mem_flatMap, List.not_mem_nil, or_false, pageId, contentsId] at h
  rcases h with rfl | (⟨i, hi, rfl⟩ | ⟨i, hi, hk⟩) | hk
  · omega
  · omega
  · omega
  · omega

end Pdf

end Vitae
