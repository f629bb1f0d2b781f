import Vitae.Proofs.Pdf.Numeral

/-!
# Files Are ASCII

Nothing in a file needs more than seven bits. The fixed parts are ASCII, numbers are
numerals, and whatever a text holds, escaping leaves digits, backslashes and visible
characters of it. So the bytes of a file are its characters, and every length that is
counted in characters is one in bytes.

The contents of a page have a line for each run, and escaping keeps the text of a run
on its line. A line begins with the letter `B`, so no line looks like the end of the
stream, and a reader that searches for that end finds the true one
(`endstream_not_in_contents`).

## Theorems

* `visible_escapeChars`: Escaped text is visible, whatever the text is.
* `runText_eq_line`: A run is one line.
* `head_of_newline`: What stands behind a line break in the contents of a page.
* `endstream_not_in_contents`: Contents end where they first seem to.
* `ascii_fileText`: A file is ASCII.
-/

namespace Vitae

namespace Pdf

theorem visible_octal (byte : Nat) : Visible (octal byte) := by
  have hdigit : ∀ n, n < 8 → 32 ≤ n.digitChar.toNat ∧ n.digitChar.toNat < 127 := by decide
  have hmod : ∀ n, n % 8 < 8 := fun n => Nat.mod_lt n (by decide)
  simp only [octal, within_cons, within_nil, hdigit _ (hmod _), and_true]
  decide

theorem visible_escapeChar (c : Char) : Visible (escapeChar c) := by
  unfold escapeChar
  split
  · rename_i hspecial
    rcases hspecial with rfl | rfl | rfl <;> decide
  · split
    · rename_i hprintable
      have hge : ' '.toNat ≤ c.toNat := hprintable.1
      have hle : c.toNat ≤ '~'.toNat := hprintable.2
      exact (within_cons c []).mpr ⟨⟨hge, Nat.lt_of_le_of_lt hle (by decide)⟩, within_nil⟩
    · split
      · exact visible_octal _
      · split
        · exact visible_octal _
        · decide

theorem visible_escapeChars (cs : List Char) : Visible (escapeChars cs) :=
  within_flatMap escapeChar cs fun c _ => visible_escapeChar c

theorem visible_decimal (n : Nat) : Visible (decimal n) :=
  (isNumeral_decimal n).visible

theorem visible_number (x : Float32) : Visible (number x) :=
  (isNumeral_number x).visible

/-- A run is one line, which begins with a `B`. -/
theorem runText_eq_line (run : Run) :
    ∃ line, runText run = 'B' :: line ++ ['\n'] ∧ Visible ('B' :: line) := by
  have hface : Visible run.face.resource.toList := by
    cases run.face <;> decide
  have hspace : 32 ≤ ' '.toNat ∧ ' '.toNat < 127 := by decide
  have hopening : "BT /".toList = 'B' :: "T /".toList := rfl
  have hclosing : ") Tj ET\n".toList = ") Tj ET".toList ++ ['\n'] := rfl
  refine ⟨"T /".toList ++ run.face.resource.toList ++ ' ' :: number run.size ++ " Tf ".toList ++
    colorText run.color ++ " rg ".toList ++ number run.x ++ ' ' :: number run.y ++
    " Td (".toList ++ escapeChars run.text.toList ++ ") Tj ET".toList, ?_, ?_⟩
  · unfold runText
    rw [hopening, hclosing]
    simp only [List.append_assoc, List.cons_append]
  · unfold colorText
    simp only [within_append, within_cons, hface, hspace, visible_number, visible_escapeChars,
      and_true]
    decide

theorem ascii_contents (page : Page) : Ascii (contents page) := by
  refine within_flatMap runText page fun run _ => ?_
  rcases runText_eq_line run with ⟨line, heq, hline⟩
  -- The break behind the line is ASCII too, though it cannot be seen.
  rw [heq]
  exact (within_append _ _).mpr ⟨hline.ascii, by decide⟩

theorem head_contents (page : Page) : contents page = [] ∨ ∃ more, contents page = 'B' :: more := by
  cases page with
  | nil => exact .inl rfl
  | cons run rest =>
      rcases runText_eq_line run with ⟨line, heq, _⟩
      refine .inr ⟨line ++ ['\n'] ++ contents rest, ?_⟩
      rw [contents, List.flatMap_cons, heq]
      rfl

/-- The first place of a character that does not stand in front of it. -/
theorem eq_or_of_append_cons {c : Char} {xs ys front back : List Char} (hxs : c ∉ xs)
    (h : xs ++ c :: ys = front ++ c :: back) :
    ys = back ∨ ∃ front', ys = front' ++ c :: back := by
  rcases List.append_eq_append_iff.mp h with ⟨front', _, hback⟩ | ⟨xs', hfront, hback⟩
  · -- The second text goes on behind the first place of the character.
    cases front' with
    | nil => exact .inl (List.cons.inj hback).2
    | cons d more => exact .inr ⟨more, (List.cons.inj hback).2⟩
  · cases xs' with
    | nil => exact .inl (List.cons.inj hback).2.symm
    | cons d more =>
        -- The character would stand in front of its first place.
        rw [(List.cons.inj hback).1, hfront] at hxs
        exact absurd (List.mem_append_right front List.mem_cons_self) hxs

/-- Behind a line break in the contents of a page there is another run or nothing. -/
theorem head_of_newline (page : Page) {front back : List Char}
    (h : contents page = front ++ '\n' :: back) : back = [] ∨ ∃ more, back = 'B' :: more := by
  induction page generalizing front with
  | nil => exact absurd h.symm (List.append_ne_nil_of_right_ne_nil _ (List.cons_ne_nil _ _))
  | cons run rest ih =>
      rcases runText_eq_line run with ⟨line, heq, hline⟩
      have hcons : contents (run :: rest) = ('B' :: line) ++ '\n' :: contents rest := by
        rw [contents, List.flatMap_cons, heq, List.append_assoc]
        rfl
      rw [hcons] at h
      -- A line has no breaks inside, so the break is its own or a later one.
      rcases eq_or_of_append_cons hline.newline_notMem h with hback | ⟨front', hrest⟩
      · rw [← hback]
        exact head_contents rest
      · exact ih hrest

/-- The mark behind a stream is not found inside it, nor where it ends and the mark
begins. -/
theorem endstream_not_in_contents (page : Page) {k : Nat} (hk : k < (contents page).length) :
    ¬"\nendstream".toList <+: (contents page ++ "\nendstream".toList).drop k := by
  rintro ⟨more, hmore⟩
  have hmark : "\nendstream".toList = '\n' :: 'e' :: "ndstream".toList := rfl
  rw [List.drop_append_of_le_length (Nat.le_of_lt hk), List.drop_eq_getElem_cons hk, hmark] at hmore
  simp only [List.cons_append, List.cons.injEq] at hmore
  rcases hmore with ⟨hnewline, hafter⟩
  have hsplit : contents page =
      (contents page).take k ++ '\n' :: (contents page).drop (k + 1) := by
    rw [hnewline, ← List.drop_eq_getElem_cons hk, List.take_append_drop]
  -- Behind the line break stands the mark itself or another run, and neither begins with `e`.
  rcases head_of_newline page hsplit with hnil | ⟨run, hrun⟩
  · rw [hnil, List.nil_append] at hafter
    exact absurd (List.cons.inj hafter).1 (by decide)
  · rw [hrun] at hafter
    exact absurd (List.cons.inj hafter).1 (by decide)

theorem ascii_ref (id : Nat) : Ascii (ref id) :=
  (within_append _ _).mpr ⟨(visible_decimal id).ascii, by decide⟩

theorem ascii_spaced (xs : List (List Char)) (h : ∀ x ∈ xs, Ascii x) : Ascii (spaced xs) := by
  induction xs with
  | nil => exact within_nil
  | cons x rest ih =>
      have hx := h x List.mem_cons_self
      have hrest := ih fun y hy => h y (List.mem_cons_of_mem _ hy)
      cases rest with
      | nil => exact hx
      | cons y more =>
          have hcons : spaced (x :: y :: more) = x ++ ' ' :: spaced (y :: more) := rfl
          rw [hcons]
          exact (within_append _ _).mpr ⟨hx, (within_cons _ _).mpr ⟨by decide, hrest⟩⟩

theorem ascii_pageObjects (config : PageConfig) (index : Nat) (pages : List Page) :
    ∀ object ∈ pageObjects config index pages, Ascii object.body := by
  have hspace : ∀ cs, Ascii (' ' :: cs) ↔ Ascii cs := by
    intro cs
    simp
  induction pages generalizing index with
  | nil => exact fun _ h => absurd h List.not_mem_nil
  | cons page rest ih =>
      intro object h
      rcases List.mem_cons.mp h with rfl | h
      · simp only [pageObject, within_append, hspace, (visible_number _).ascii, ascii_ref, and_true]
        decide
      · rcases List.mem_cons.mp h with rfl | h
        · simp only [contentsObject, within_append, (visible_decimal _).ascii, ascii_contents,
            and_true]
          decide
        · exact ih (index + 1) object h

theorem ascii_objects (pages : List Page) (title : String) (config : PageConfig) :
    ∀ object ∈ objects pages title config, Ascii object.body := by
  intro object h
  rcases List.mem_append.mp h with h | h
  · simp only [List.mem_cons, List.not_mem_nil, or_false] at h
    rcases h with rfl | rfl | rfl | rfl | rfl
    · decide
    · have hkids : ∀ x ∈ (List.range pages.length).map (fun i => ref (pageId i)), Ascii x := by
        intro x hx
        rcases List.mem_map.mp hx with ⟨i, _, rfl⟩
        exact ascii_ref _
      simp only [pageList, within_append, ascii_spaced _ hkids, (visible_decimal _).ascii, and_true]
      decide
    · decide
    · decide
    · simp only [information, within_append, (visible_escapeChars _).ascii, and_true]
      decide
  · exact ascii_pageObjects config 0 pages object h

theorem ascii_trailer (offsets : List Nat) (position : Nat) : Ascii (trailer offsets position) := by
  have hlines : Ascii (offsets.flatMap tableLine) :=
    within_flatMap tableLine offsets fun n _ =>
      (within_append _ _).mpr ⟨(isNumeral_tenDigits n).visible.ascii, by decide⟩
  unfold trailer
  simp only [within_append, (visible_decimal _).ascii, hlines, and_true]
  decide

/-- A file is ASCII. -/
theorem ascii_fileText (pages : List Page) (title : String) (config : PageConfig) :
    Ascii (fileText pages title config) := by
  have hobjects : Ascii ((objects pages title config).flatMap objectText) := by
    refine within_flatMap objectText _ fun object h => ?_
    simp only [objectText, within_append, (visible_decimal _).ascii,
      ascii_objects pages title config object h, and_true]
    decide
  simp only [fileText, within_append, ascii_trailer, hobjects, and_true]
  decide

end Pdf

end Vitae
