import Vitae.Pdf.Content
import Vitae.Proofs.Pdf.Decimal
import Vitae.Proofs.Pdf.Encoding
import Vitae.Proofs.Pdf.Mention

/-!
# Reading the Contents of a Page

A reader of a page works in four steps, each by the rules for any page. Tokens come
first, then operations, which are operators with the operands in front of them, then
groups of operations between the marks that begin and end text, and last what each
group shows. A group is read with a new pen, so nothing carries over from one group to
the next, and a group that has not set the font, the color and the place by itself
shows nothing that can be read.

What is read is the page. Each run is one group, because escaping keeps its text inside
its string, and the numbers of a group are those of the run to three decimals. For
colors three decimals are enough: the nearest channel is the one that was written.

The reader is strict. Operations outside of groups, groups in groups, operands without
an operator and operators it does not know all make a page unreadable, so a page that
is read has nothing else on it.

## Main definitions

* `operations`, `groups`: Tokens as operations, and operations as groups.
* `Pen`, `readGroup`: What a group shows.
* `readContents`: What the contents of a page show.
* `shownRun`: A run as a reader sees it.
* `Reads`: A text that leaves nothing open, with its tokens.

## Theorems

* `tokens_contents`: The tokens of a page, run by run.
* `channel?_printed`: A channel is the nearest to the fraction it is printed as.
* `operations_contents`, `groups_contents`: The groups of a page are those of its runs.
* `readGroup_runGroup`: The group that draws a run shows the run.
* `readContents_contents`: A page is read as its runs.
-/

namespace Vitae

namespace Pdf

/-- What an operator works on. -/
inductive Operand where
  | number (q : ℚ)
  | name (cs : List Char)
  | text (s : String)
deriving DecidableEq

/-- An operator with the operands in front of it. -/
structure Operation where
  operator : List Char
  operands : List Operand
deriving DecidableEq

/-- The operand that a token is, if it is one. -/
def operand? : Token → Option Operand
  | .word cs => (readNumber cs).map .number
  | .name cs => some (.name cs)
  | .literal cs => (readText cs).map .text
  | _ => none

/-- The operations of a list of tokens. A word that is no number is an operator, and
takes all operands in front of it. -/
def operationsFrom (front : List Operand) : List Token → Option (List Operation)
  | [] => if front = [] then some [] else none
  | t :: rest =>
    match operand? t with
    | some operand => operationsFrom (front ++ [operand]) rest
    | none =>
      match t with
      | .word operator => (operationsFrom [] rest).map (⟨operator, front⟩ :: ·)
      | _ => none

def operations (ts : List Token) : Option (List Operation) :=
  operationsFrom [] ts

def beginText : Operation := ⟨['B', 'T'], []⟩

def endText : Operation := ⟨['E', 'T'], []⟩

/-- The operations between the marks of each group, the group being read given by what
has been seen of it. Groups do not nest, and nothing stands outside of them. -/
def groupsFrom : Option (List Operation) → List Operation → Option (List (List Operation))
  | none, [] => some []
  | some _, [] => none
  | none, operation :: rest =>
    if operation = beginText then groupsFrom (some []) rest else none
  | some seen, operation :: rest =>
    if operation = endText then (groupsFrom none rest).map (seen :: ·)
    else if operation = beginText then none
    else groupsFrom (some (seen ++ [operation])) rest

def groups (operations : List Operation) : Option (List (List Operation)) :=
  groupsFrom none operations

/-- A text as it is seen on a page. -/
structure Shown where
  face : Face
  size : ℚ
  x : ℚ
  y : ℚ
  color : Rgb
  text : String
deriving DecidableEq

/-- What a group has set so far, and what it has shown. -/
structure Pen where
  font : Option (Face × ℚ)
  color : Option Rgb
  place : Option (ℚ × ℚ)
  shown : Option Shown

/-- The face with a name. -/
def face? (name : List Char) : Option Face :=
  [Face.regular, Face.bold].find? (fun face => face.resource.toList == name)

/-- The channel that is nearest to a fraction. -/
def channel? (q : ℚ) : Option UInt8 :=
  let k := halfEven (255 * q)
  if 0 ≤ k ∧ k ≤ 255 then some (UInt8.ofNat k.toNat) else none

/-- The color that is nearest to three fractions. -/
def color? (r g b : ℚ) : Option Rgb :=
  (channel? r).bind fun r => (channel? g).bind fun g => (channel? b).map fun b => ⟨r, g, b⟩

namespace Pen

def new : Pen := ⟨none, none, none, none⟩

/-- The pen after an operation. Text is shown once, when all is set. -/
def step (pen : Pen) (operation : Operation) : Option Pen :=
  match operation.operator, operation.operands with
  | ['T', 'f'], [.name name, .number size] =>
    (face? name).map fun face => { pen with font := some (face, size) }
  | ['r', 'g'], [.number r, .number g, .number b] =>
    (color? r g b).map fun color => { pen with color := some color }
  | ['T', 'd'], [.number x, .number y] =>
    if pen.place = none then some { pen with place := some (x, y) } else none
  | ['T', 'j'], [.text text] =>
    match pen.font, pen.place, pen.color, pen.shown with
    | some (face, size), some (x, y), some color, none =>
      some { pen with shown := some ⟨face, size, x, y, color, text⟩ }
    | _, _, _, _ => none
  | _, _ => none

end Pen

/-- What a group of operations shows. -/
def readGroup (group : List Operation) : Option Shown :=
  (group.foldlM Pen.step Pen.new).bind Pen.shown

/-- What the contents of a page show, group by group. -/
def readContents (cs : List Char) : Option (List Shown) :=
  ((operations (tokens cs)).bind groups).bind (fun gs => gs.mapM readGroup)

/-- A run as a reader sees it. -/
def shownRun (run : Run) : Shown :=
  ⟨run.face, rounded run.size, rounded run.x, rounded run.y, run.color, shownText run.text⟩

section Tokens

/-- A text that leaves nothing open, with its tokens. -/
def Reads (ts : List Token) (cs : List Char) : Prop :=
  Lexer.gap.run cs = (ts, .gap)

namespace Reads

theorem append {ts us : List Token} {xs ys : List Char} (hx : Reads ts xs) (hy : Reads us ys) :
    Reads (ts ++ us) (xs ++ ys) := by
  rw [Reads, Lexer.run_append, hx, hy]

theorem word {w : List Char} (hw : IsNumeral w) {ts : List Token} {rest : List Char}
    (hbreak : breaks rest = true) (h : Reads ts rest) : Reads (.word w :: ts) (w ++ rest) := by
  cases rest with
  | nil => exact absurd hbreak Bool.false_ne_true
  | cons c more => rw [Reads, hw.run ((Bool.not_eq_true' _).mp hbreak) more, h]

theorem space {ts : List Token} {rest : List Char} (h : Reads ts rest) :
    Reads ts (' ' :: rest) := by
  have hspace : Reads [] [' '] := rfl
  exact hspace.append h

theorem literal (text : List Char) {ts : List Token} {rest : List Char} (h : Reads ts rest) :
    Reads (.literal (escapeChars text) :: ts) ('(' :: escapeChars text ++ ')' :: rest) := by
  rw [Reads, Lexer.run_literal, h]

theorem tokens_eq {ts : List Token} {cs : List Char} (h : Reads ts cs) : tokens cs = ts := by
  rw [tokens, h]
  exact List.append_nil ts

end Reads

/-- The tokens of three channels in a row. -/
def colorTokens (color : Rgb) : List Token :=
  [ .word (number color.fractions.1), .word (number color.fractions.2.1),
    .word (number color.fractions.2.2) ]

theorem reads_colorText (color : Rgb) {ts : List Token} {rest : List Char}
    (hbreak : breaks rest = true) (h : Reads ts rest) :
    Reads (colorTokens color ++ ts) (colorText color ++ rest) := by
  have hblue := h.word (isNumeral_number color.fractions.2.2) hbreak
  have hgreen := hblue.space.word (isNumeral_number color.fractions.2.1) rfl
  have hred := hgreen.space.word (isNumeral_number color.fractions.1) rfl
  unfold colorText colorTokens
  simpa only [List.append_assoc, List.cons_append, List.nil_append] using hred

/-- The tokens of the group that draws a run. -/
def runTokens (run : Run) : List Token :=
  [ .word ['B', 'T'], .name run.face.resource.toList, .word (number run.size),
    .word ['T', 'f'] ] ++ colorTokens run.color ++
  [ .word ['r', 'g'], .word (number run.x), .word (number run.y), .word ['T', 'd'],
    .literal (escapeChars run.text.toList), .word ['T', 'j'], .word ['E', 'T'] ]

theorem reads_runText (run : Run) : Reads (runTokens run) (runText run) := by
  have hface : Reads [.word ['B', 'T'], .name run.face.resource.toList]
      ("BT /".toList ++ run.face.resource.toList ++ [' ']) := by
    cases run.face <;> (unfold Reads; decide)
  have htf : Reads [.word ['T', 'f']] " Tf ".toList := by unfold Reads; decide
  have hrg : Reads [.word ['r', 'g']] " rg ".toList := by unfold Reads; decide
  have htd : Reads [.word ['T', 'd']] " Td ".toList := by unfold Reads; decide
  have htj : Reads [.word ['T', 'j'], .word ['E', 'T']] " Tj ET\n".toList := by
    unfold Reads
    decide
  -- The group is put together from its end, so that every numeral meets what ends it.
  have htext := htd.append (htj.literal run.text.toList)
  have hy := htext.word (isNumeral_number run.y) rfl
  have hx := hy.space.word (isNumeral_number run.x) rfl
  have hcolor := reads_colorText run.color rfl (hrg.append hx)
  have hsize := (htf.append hcolor).word (isNumeral_number run.size) rfl
  have hopening : " Td (".toList = " Td ".toList ++ ['('] := rfl
  have hclosing : ") Tj ET\n".toList = ')' :: " Tj ET\n".toList := rfl
  unfold runText runTokens
  rw [hopening, hclosing]
  simpa only [List.append_assoc, List.cons_append, List.nil_append] using hface.append hsize

/-- The contents of a page are read group by group. -/
theorem tokens_contents (page : Page) : tokens (contents page) = page.flatMap runTokens := by
  refine Reads.tokens_eq ?_
  induction page with
  | nil => rfl
  | cons run rest ih =>
    rw [contents, List.flatMap_cons, List.flatMap_cons]
    exact (reads_runText run).append ih

end Tokens

section Colors

/-- The text of a channel is the nearest thousandth of its fraction. -/
theorem number_fraction (v : UInt8) :
    number (Rgb.fraction v) = decimalText (roundHalfEven (1000 * v.toNat) 255) := by
  have hall : ∀ n < 256, number (Rgb.fraction (UInt8.ofNat n)) =
      decimalText (roundHalfEven (1000 * n) 255) := by
    decide +kernel
  have hv := hall v.toNat v.toNat_lt
  rwa [UInt8.ofNat_toNat] at hv

/-- The fraction that a channel is printed as. -/
def printed (v : UInt8) : ℚ :=
  roundHalfEven (1000 * v.toNat) 255 / 1000

theorem readNumber_fraction (v : UInt8) : readNumber (number (Rgb.fraction v)) = some (printed v) := by
  have hsigned : signedText (roundHalfEven (1000 * v.toNat) 255 : ℕ) =
      decimalText (roundHalfEven (1000 * v.toNat) 255) := by
    rw [signedText, if_neg (by omega), Int.natAbs_natCast]
  rw [number_fraction, ← hsigned, readNumber_signedText, Int.cast_natCast, printed]

/-- A channel is the nearest to the fraction it is printed as. -/
theorem channel?_printed (v : UInt8) : channel? (printed v) = some v := by
  have hpos : 0 < 255 := by decide
  have hnear := roundHalfEven_near (1000 * v.toNat) hpos
  have hlt : v.toNat < 256 := v.toNat_lt
  have hround : halfEven (255 * printed v) = (v.toNat : ℤ) := by
    refine halfEven_eq_of_abs_sub_lt ?_
    -- Half a thousandth is a good deal less than half of a 255th.
    obtain ⟨hle, hge⟩ := hnear
    have hle : (2 * (1000 * v.toNat) : ℚ) ≤ 2 * 255 * roundHalfEven (1000 * v.toNat) 255 + 255 := by
      exact_mod_cast hle
    have hge : (2 * 255 * roundHalfEven (1000 * v.toNat) 255 : ℚ) ≤ 2 * (1000 * v.toNat) + 255 := by
      exact_mod_cast hge
    rw [printed, Int.cast_natCast, abs_lt]
    constructor <;> linarith
  simp only [channel?, hround]
  rw [if_pos (by omega), Int.toNat_natCast, UInt8.ofNat_toNat]

theorem color?_printed (color : Rgb) :
    color? (printed color.r) (printed color.g) (printed color.b) = some color := by
  simp only [color?, channel?_printed, Option.bind_some, Option.map_some]

/-- Different colors are printed differently. -/
theorem injective_colorText : Function.Injective colorText := by
  intro c d h
  have htokens : colorTokens c ++ [] = colorTokens d ++ [] := by
    have hspace : Reads [] [' '] := rfl
    rw [← (reads_colorText c rfl hspace).tokens_eq, ← (reads_colorText d rfl hspace).tokens_eq, h]
  have hchannel : ∀ {v w : UInt8}, number (Rgb.fraction v) = number (Rgb.fraction w) → v = w := by
    intro v w heq
    have hread := readNumber_fraction v
    rw [heq, readNumber_fraction, Option.some_inj] at hread
    have hv := channel?_printed v
    rw [← hread, channel?_printed, Option.some_inj] at hv
    exact hv.symm
  simp only [colorTokens, List.append_nil, List.cons.injEq, Token.word.injEq] at htokens
  obtain ⟨hr, hg, hb, -⟩ := htokens
  obtain ⟨r, g, b⟩ := c
  obtain ⟨r', g', b'⟩ := d
  rw [Rgb.mk.injEq]
  exact ⟨hchannel hr, hchannel hg, hchannel hb⟩

end Colors

section Groups

/-- The operations between the marks of the group that draws a run. -/
def runGroup (run : Run) : List Operation :=
  [ ⟨['T', 'f'], [.name run.face.resource.toList, .number (rounded run.size)]⟩,
    ⟨['r', 'g'], [.number (printed run.color.r), .number (printed run.color.g),
      .number (printed run.color.b)]⟩,
    ⟨['T', 'd'], [.number (rounded run.x), .number (rounded run.y)]⟩,
    ⟨['T', 'j'], [.text (shownText run.text)]⟩ ]

/-- The operations of the group that draws a run. -/
def runOperations (run : Run) : List Operation :=
  beginText :: runGroup run ++ [endText]

/-- A run whose place and size are numbers. -/
structure Placed (run : Run) : Prop where
  x : run.x.isFinite = true
  y : run.y.isFinite = true
  size : run.size.isFinite = true

theorem operationsFrom_runTokens {run : Run} (h : Placed run) (rest : List Token) :
    operationsFrom [] (runTokens run ++ rest) =
      (operationsFrom [] rest).map (runOperations run ++ ·) := by
  -- The operators are the words that are no numbers.
  have hbegin : readNumber ['B', 'T'] = none := rfl
  have hfont : readNumber ['T', 'f'] = none := rfl
  have hcolor : readNumber ['r', 'g'] = none := rfl
  have hplace : readNumber ['T', 'd'] = none := rfl
  have hshow : readNumber ['T', 'j'] = none := rfl
  have hend : readNumber ['E', 'T'] = none := rfl
  simp only [runTokens, colorTokens, Rgb.fractions, List.cons_append, List.nil_append,
    operationsFrom, operand?, hbegin, hfont, hcolor, hplace, hshow, hend, Option.map_none,
    readNumber_number h.size, readNumber_number h.x, readNumber_number h.y, readNumber_fraction,
    readText_escapeChars, Option.map_some, Option.map_map]
  congr 1

theorem operations_contents {page : Page} (h : ∀ run ∈ page, Placed run) :
    operations (page.flatMap runTokens) = some (page.flatMap runOperations) := by
  unfold operations
  induction page with
  | nil => rfl
  | cons run rest ih =>
    rw [List.flatMap_cons, List.flatMap_cons, operationsFrom_runTokens (h run List.mem_cons_self),
      ih fun r hr => h r (List.mem_cons_of_mem _ hr), Option.map_some]

/-- The marks of a group are not among its operations, so they end it. -/
theorem groupsFrom_runOperations (run : Run) (rest : List Operation) :
    groupsFrom none (runOperations run ++ rest) =
      (groupsFrom none rest).map (runGroup run :: ·) := by
  simp [runOperations, runGroup, groupsFrom, beginText, endText]

theorem groups_contents (page : Page) :
    groups (page.flatMap runOperations) = some (page.map runGroup) := by
  unfold groups
  induction page with
  | nil => rfl
  | cons run rest ih =>
    rw [List.flatMap_cons, groupsFrom_runOperations, ih, List.map_cons, Option.map_some]

theorem face?_resource (face : Face) : face? face.resource.toList = some face := by
  cases face <;> decide

/-- The group that draws a run shows the run. -/
theorem readGroup_runGroup (run : Run) : readGroup (runGroup run) = some (shownRun run) := by
  simp [readGroup, runGroup, Pen.step, Pen.new, face?_resource, color?_printed, shownRun]

theorem mapM_readGroup (page : Page) :
    (page.map runGroup).mapM readGroup = some (page.map shownRun) := by
  induction page with
  | nil => rfl
  | cons run rest ih => simp [List.mapM_cons, readGroup_runGroup, ih]

/-- Reading the contents of a page gives its runs back, one group for each, whatever
their texts are. No two colors are printed alike. -/
theorem readContents_contents :
    (∀ page : Page, (∀ run ∈ page, Placed run) →
      readContents (contents page) = some (page.map shownRun)) ∧
      Function.Injective colorText := by
  refine ⟨fun page h => ?_, injective_colorText⟩
  rw [readContents, tokens_contents, operations_contents h, Option.bind_some, groups_contents,
    Option.bind_some, mapM_readGroup]

/-- Two runs, one of which has a text that looks like the end of its group. -/
def bracketPage : Page :=
  [ ⟨54, 725.0625, 12.5, .bold, ⟨31, 58, 95⟩, "a) Tj ET BT (\\ \u00e9 \u201Cx\u201D\n"⟩,
    ⟨-0.0001, 38.4, 8, .regular, ⟨0, 128, 255⟩, "((1"⟩ ]

theorem readContents_contents_brackets :
    (∀ run ∈ bracketPage, Placed run) ∧
      readContents (contents bracketPage) = some
        [ ⟨.bold, 12.5, 54, 725.062, ⟨31, 58, 95⟩, "a) Tj ET BT (\\ \u00e9 \u201Cx\u201D?"⟩,
          ⟨.regular, 8, 0, 38.4, ⟨0, 128, 255⟩, "((1"⟩ ] := by
  have hplaced : ∀ run ∈ bracketPage, Placed run := by
    refine List.forall_mem_cons.mpr ⟨⟨?_, ?_, ?_⟩, List.forall_mem_singleton.mpr ⟨?_, ?_, ?_⟩⟩ <;>
      decide +kernel
  have hshown : bracketPage.map shownRun =
      [ ⟨.bold, 12.5, 54, 725.062, ⟨31, 58, 95⟩, "a) Tj ET BT (\\ \u00e9 \u201Cx\u201D?"⟩,
        ⟨.regular, 8, 0, 38.4, ⟨0, 128, 255⟩, "((1"⟩ ] := by
    decide +kernel
  exact ⟨hplaced, (readContents_contents.1 bracketPage hplaced).trans (congrArg some hshown)⟩

end Groups

end Pdf

end Vitae
