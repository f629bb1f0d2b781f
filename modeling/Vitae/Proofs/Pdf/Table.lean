import Vitae.Proofs.Pdf.Numeral

/-!
# Objects and Their Table

Where the objects of a file are. They stand one after the other, numbered from one, so
an object begins where the ones in front of it end (`getElem?_offsets`), and the table
says so in ten digits and twenty characters for each (`isRow_tableLine`). Ten digits
are only enough in a file that is shorter than ten to the tenth, which is why a
condition on its length comes in.

The two objects of a page are found from its place among the pages, and the numbers of
all objects are known from how many pages there are (`ids_objects`).

## Main definitions

* `block`, `blocks`: Objects as they stand in a file, given their bodies.
* `IsRow`: A line of the table for an object that begins at a place.

## Theorems

* `blocks_split`: An object among the others.
* `getElem?_offsets`: An object begins where the ones in front of it end.
* `isRow_tableLine`: A line of the table has twenty characters and is read back.
* `ids_objects`: Objects are numbered from one.
* `flatMap_take_objectText`, `flatMap_objectText`: Numbered objects stand in the file as
  blocks.
* `getElem?_pageObjects`: The two objects of a page.
-/

namespace Vitae

namespace Pdf

/-- An object with its number in front and its end behind. -/
def block (id : Nat) (body : List Char) : List Char :=
  decimal id ++ " 0 obj\n".toList ++ body ++ "\nendobj\n".toList

/-- Objects one after the other, numbered from `id`. -/
def blocks : Nat → List (List Char) → List Char
  | _, [] => []
  | id, body :: rest => block id body ++ blocks (id + 1) rest

/-- A line of the table for an object that begins at a place. -/
structure IsRow (place : Nat) (row : List Char) : Prop where
  length : row.length = 20
  digits : ∃ digits, row = digits ++ " 00000 n \n".toList ∧
    (∀ c ∈ digits, c.isDigit = true) ∧ Nat.ofDigitChars 10 digits 0 = place

theorem blocks_split (id : Nat) (bodies : List (List Char)) (i : Nat) (h : i < bodies.length) :
    blocks id bodies =
      blocks id (bodies.take i) ++ block (id + i) bodies[i] ++
        blocks (id + i + 1) (bodies.drop (i + 1)) := by
  induction bodies generalizing id i with
  | nil => exact absurd h (Nat.not_lt_zero i)
  | cons body rest ih =>
      cases i with
      | zero => rfl
      | succ k =>
          -- The object is one place nearer in the rest, which is numbered one higher.
          have hk := ih (id + 1) k (Nat.lt_of_succ_lt_succ h)
          rw [Nat.add_right_comm id 1 k] at hk
          rw [blocks, hk, List.take_succ_cons, blocks, List.drop_succ_cons,
            List.getElem_cons_succ]
          simp only [List.append_assoc]
          rfl

theorem flatMap_take_objectText (id : Nat) (objects : List FileObject)
    (h : objects.map FileObject.id = List.range' id objects.length) (i : Nat) :
    (objects.take i).flatMap objectText = blocks id ((objects.map FileObject.body).take i) := by
  induction objects generalizing id i with
  | nil =>
      rw [List.take_nil, List.map_nil, List.take_nil]
      rfl
  | cons object rest ih =>
      cases i with
      | zero => rfl
      | succ k =>
          rw [List.map_cons, List.length_cons, List.range'_succ, List.cons.injEq] at h
          rw [List.take_succ_cons, List.flatMap_cons, List.map_cons, List.take_succ_cons, blocks,
            ih (id + 1) h.2, ← h.1]
          rfl

theorem flatMap_objectText (id : Nat) (objects : List FileObject)
    (h : objects.map FileObject.id = List.range' id objects.length) :
    objects.flatMap objectText = blocks id (objects.map FileObject.body) := by
  have htake := flatMap_take_objectText id objects h objects.length
  rw [List.take_length, ← List.length_map (f := FileObject.body), List.take_length] at htake
  exact htake

theorem length_offsets (position : Nat) (objects : List FileObject) :
    (offsets position objects).length = objects.length := by
  induction objects generalizing position with
  | nil => rfl
  | cons object rest ih => rw [offsets, List.length_cons, ih, List.length_cons]

/-- An object begins where the ones in front of it end. -/
theorem getElem?_offsets (position : Nat) (objects : List FileObject) (i : Nat)
    (h : i < objects.length) :
    (offsets position objects)[i]? =
      some (position + ((objects.take i).flatMap objectText).length) := by
  induction objects generalizing position i with
  | nil => exact absurd h (Nat.not_lt_zero i)
  | cons object rest ih =>
      cases i with
      | zero => rfl
      | succ k =>
          -- The first object is in front of every later one.
          rw [offsets, List.getElem?_cons_succ, ih _ k (Nat.lt_of_succ_lt_succ h),
            List.take_succ_cons, List.flatMap_cons, List.length_append, Nat.add_assoc]

theorem isRow_tableLine {n : Nat} (h : n < 10 ^ 10) : IsRow n (tableLine n) where
  length := by
    have hle := length_decimal_le h
    have hsuffix : " 00000 n \n".toList.length = 10 := by decide
    -- The zeros fill up what the digits leave of ten places.
    have hten : (tenDigits n).length = 10 := by
      simp only [tenDigits, List.length_append, List.length_replicate]
      omega
    rw [tableLine, List.length_append, hten, hsuffix]
  digits := by
    refine ⟨tenDigits n, rfl, List.forall_mem_append.mpr ⟨fun c hc => ?_, fun c hc => ?_⟩, ?_⟩
    · rw [(List.mem_replicate.mp hc).2]
      rfl
    · exact isDigit_of_mem_decimal hc
    · -- The zeros in front do not count.
      rw [tenDigits, Nat.ofDigitChars_append, Nat.ofDigitChars_replicate_zero, Nat.mul_zero,
        ofDigitChars_decimal]

theorem length_pageObjects (config : PageConfig) (index : Nat) (pages : List Page) :
    (pageObjects config index pages).length = 2 * pages.length := by
  induction pages generalizing index with
  | nil => rfl
  | cons page rest ih =>
      rw [pageObjects, List.length_cons, List.length_cons, ih, List.length_cons]
      omega

theorem ids_pageObjects (config : PageConfig) (index : Nat) (pages : List Page) :
    (pageObjects config index pages).map FileObject.id =
      List.range' (pageId index) (2 * pages.length) := by
  induction pages generalizing index with
  | nil => rfl
  | cons page rest ih =>
      rw [pageObjects, List.map_cons, List.map_cons, ih, List.length_cons, Nat.mul_succ,
        List.range'_succ, List.range'_succ]
      rfl

section Objects

variable (pages : List Page) (title : String) (config : PageConfig)

theorem length_objects : (objects pages title config).length = 5 + 2 * pages.length := by
  rw [objects, List.length_append, length_pageObjects]
  rfl

theorem ids_objects :
    (objects pages title config).map FileObject.id =
      List.range' 1 (objects pages title config).length := by
  rw [length_objects, objects, List.map_append, ids_pageObjects, ← List.range'_append_1]
  rfl

end Objects

theorem getElem?_pageObjects (config : PageConfig) (index : Nat) (pages : List Page) (i : Nat)
    (h : i < pages.length) :
    (pageObjects config index pages)[2 * i]? = some (pageObject config (index + i)) ∧
      (pageObjects config index pages)[2 * i + 1]? =
        some (contentsObject pages[i] (index + i)) := by
  induction pages generalizing index i with
  | nil => exact absurd h (Nat.not_lt_zero i)
  | cons page rest ih =>
      cases i with
      | zero => exact ⟨rfl, rfl⟩
      | succ k =>
          -- The two objects of the first page shift the others by two places.
          have hk := ih (index + 1) k (Nat.lt_of_succ_lt_succ h)
          rw [Nat.add_right_comm index 1 k] at hk
          exact hk

end Pdf

end Vitae
