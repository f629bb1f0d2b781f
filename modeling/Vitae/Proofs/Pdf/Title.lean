import Vitae.Proofs.Pdf.Drawing
import Vitae.Proofs.Pdf.Escaping
import Vitae.Proofs.Pdf.Reading

/-!
# The Title of a File

The texts on a page are shown in a font, and fonts say what encoding they have. The title
stands in the document information, where nothing is shown in any font. Strings there have
an encoding of their own, which agrees with that of the fonts on ASCII and on nearly all
of the upper half of Latin-1, but on two bytes only in between.

A title is written like any other text, so its bytes are those of the fonts. A reader
that takes them for what they are in that place finds the title, as long as it has none of
eleven characters: the punctuation marks that are neither ASCII nor Latin-1, the no-break
space and the soft hyphen. Each mark is then shown as another character
(`readTitle_encode`), although both encodings have all of them (`not_forall_readTitle`).

## Main definitions

* `informationId?`, `bodyFrom`, `valueOf?`: What leads to the title among the tokens of a
  file.
* `textString`: The text that a string stands for outside of a page.
* `readTitle`: The title that a reader of a file finds.
* `confusions`: The characters that are read as others.

## Theorems

* `informationId?_tokens`, `titleIn?_tokens`: The object that the end of a file names, and
  the string in it that is the title.
* `textChar?_byteOf`: What is read for each character.
* `readTitle_eq`: What is read for each title.
* `readTitle_encode`: The titles that are read as they are written.
* `not_forall_readTitle`: A name that is shown as another one.
-/

namespace Vitae

namespace Pdf

section Reader

/-- The tokens behind the head of an object, `a` and `b` being the two in front of the
list. -/
def bodyFrom (id : Nat) (a b : Option Token) : List Token → Option (List Token)
  | [] => none
  | t :: rest =>
    if t = .word defining ∧ objectNumber a b = some id then some rest
    else bodyFrom id b (some t) rest

/-- The value of a key, given what stands behind the mark that begins a dictionary. Every
value in front of it has to be one token. -/
def valueOf? (key : List Char) : List Token → Option Token
  | .name found :: value :: rest => if found = key then some value else valueOf? key rest
  | _ => none

/-- The object that tells about the document. The end of a file names it, so its key counts
where it comes last. -/
def informationId? : List Token → Option Nat
  | [] => none
  | t :: rest =>
    (informationId? rest).or
      (if t = .name "Info".toList then objectNumber rest[0]? rest[1]? else none)

/-- The string that is the title in a numbered object. -/
def titleIn? (ts : List Token) (id : Nat) : Option (List Char) :=
  match bodyFrom id none none ts with
  | some (.mark ['<', '<'] :: entries) =>
    match valueOf? "Title".toList entries with
    | some (.literal cs) => some cs
    | _ => none
  | _ => none

/-- The string that is the title of a file, given its tokens. -/
def titleString? (ts : List Token) : Option (List Char) :=
  (informationId? ts).bind (titleIn? ts)

/-- The characters of the bytes in strings that are shown in no font, as far as they are
neither ASCII nor Latin-1, or are control characters. -/
def textMarks : List (Nat × Char) :=
  [ (0x09, '\t'), (0x0A, '\n'), (0x0D, '\r'),
    (0x18, '\u02D8'), (0x19, '\u02C7'), (0x1A, '\u02C6'), (0x1B, '\u02D9'), (0x1C, '\u02DD'),
    (0x1D, '\u02DB'), (0x1E, '\u02DA'), (0x1F, '\u02DC'), (0x80, '\u2022'), (0x81, '\u2020'),
    (0x82, '\u2021'), (0x83, '\u2026'), (0x84, '\u2014'), (0x85, '\u2013'), (0x86, '\u0192'),
    (0x87, '\u2044'), (0x88, '\u2039'), (0x89, '\u203A'), (0x8A, '\u2212'), (0x8B, '\u2030'),
    (0x8C, '\u201E'), (0x8D, '\u201C'), (0x8E, '\u201D'), (0x8F, '\u2018'), (0x90, '\u2019'),
    (0x91, '\u201A'), (0x92, '\u2122'), (0x93, '\uFB01'), (0x94, '\uFB02'), (0x95, '\u0141'),
    (0x96, '\u0152'), (0x97, '\u0160'), (0x98, '\u0178'), (0x99, '\u017D'), (0x9A, '\u0131'),
    (0x9B, '\u0142'), (0x9C, '\u0153'), (0x9D, '\u0161'), (0x9E, '\u017E'), (0xA0, '\u20AC') ]

/-- The character of a byte in a string that is shown in no font. -/
def textChar? (byte : Nat) : Option Char :=
  if (0x20 ≤ byte ∧ byte < 0x7F) ∨ (0xA1 ≤ byte ∧ byte < 0x100 ∧ byte ≠ 0xAD) then
    some (Char.ofNat byte)
  else textMarks.lookup byte

/-- The bytes in front of a string that is in another encoding yet, with two bytes for a
character. -/
def wideMark : List Nat := [0xFE, 0xFF]

/-- The text that a string stands for where it is shown in no font. -/
def textString (cs : List Char) : Option String :=
  if wideMark <+: unescape cs then none
  else ((unescape cs).mapM textChar?).map String.ofList

/-- The title that a reader of a file finds. -/
def readTitle (file : Bytes) : Option String :=
  (titleString? (tokens (Utf8.characters file))).bind textString

end Reader

section Finding

/-- Only the definition of the object itself makes a reader stop. -/
theorem bodyFrom_append {id : Nat} {a b : Option Token} {ts : List Token}
    (h : some id ∉ named defining a b ts) (us : List Token) :
    ∃ a' b', bodyFrom id a b (ts ++ us) = bodyFrom id a' b' us := by
  induction ts generalizing a b with
  | nil => exact ⟨a, b, rfl⟩
  | cons t rest ih =>
    rw [named] at h
    rw [List.cons_append, bodyFrom]
    split at h
    · rename_i ht
      rw [List.mem_cons, not_or] at h
      rw [if_neg fun hfound => h.1 hfound.2.symm]
      exact ih h.2
    · rename_i ht
      rw [if_neg fun hfound => ht hfound.1]
      exact ih h

theorem bodyFrom_head (id : Nat) (a b : Option Token) (rest : List Token) :
    bodyFrom id a b (.word (decimal id) :: .word ['0'] :: .word defining :: rest) = some rest := by
  have hid : Token.word (decimal id) ≠ .word defining := (isNumeral_decimal id).ne_defining
  have hzero : Token.word ['0'] ≠ .word defining := by decide
  rw [bodyFrom, if_neg fun h => hid h.1, bodyFrom, if_neg fun h => hzero h.1, bodyFrom,
    if_pos ⟨rfl, objectNumber_decimal id⟩]

theorem Passage.reads {d m : List Nat} {cs : List Char} (h : Passage d m cs) :
    Reads (Lexer.gap.run cs).1 cs :=
  Prod.ext rfl h.closed

theorem Reads.tokens_append {ts : List Token} {xs : List Char} (h : Reads ts xs)
    (ys : List Char) : tokens (xs ++ ys) = ts ++ tokens ys := by
  rw [tokens, tokens, Lexer.run_append, h, List.append_assoc]

/-- Whatever stands in front of the last key does not matter. -/
theorem informationId?_append {id : Nat} (ts : List Token) {us : List Token}
    (h : informationId? us = some id) : informationId? (ts ++ us) = some id := by
  induction ts with
  | nil => exact h
  | cons t rest ih => rw [List.cons_append, informationId?, ih, Option.some_or]

theorem tokens_closingText (position : Nat) :
    tokens (closingText position) =
      [.name "Info".toList, .word ['5'], .word ['0'], .word referring, .mark ['>', '>'],
        .word "startxref".toList, .word (decimal position)] := by
  have hinfo : Reads [.name "Info".toList, .word ['5'], .word ['0'], .word referring,
      .mark ['>', '>'], .word "startxref".toList] "/Info 5 0 R >>\nstartxref\n".toList := by
    unfold Reads
    decide
  have hend : Reads [] "\n%%EOF\n".toList := by
    unfold Reads
    decide
  have hposition := hend.word (isNumeral_decimal position) rfl
  have hsplit : closingText position = "/Info 5 0 R >>\nstartxref\n".toList ++
      (decimal position ++ "\n%%EOF\n".toList) := by
    unfold closingText
    exact List.append_assoc _ _ _
  rw [hsplit]
  exact (hinfo.append hposition).tokens_eq

theorem informationId?_closingText (position : Nat) :
    informationId? (tokens (closingText position)) = some 5 := by
  have hnumber : objectNumber (some (.word ['5'])) (some (.word ['0'])) = some 5 := by decide
  rw [tokens_closingText]
  simp [informationId?, hnumber]

/-- The parts of a file that lead to its title: the object that tells about the document,
and the end of the file. -/
theorem fileText_parts (pages : List Page) (title : String) (config : PageConfig) :
    ∃ front middle position m d' m', Passage [1, 2, 3, 4] m front ∧ Passage d' m' middle ∧
      fileText pages title config =
        front ++ objectText (information title) ++ middle ++ closingText position := by
  have hheader : Passage [] [] fileHeader := .of_read (by decide)
  refine ⟨_, (pageObjects config 0 pages).flatMap objectText ++
    tableText (offsets fileHeader.length (objects pages title config)),
    (fileHeader ++ (objects pages title config).flatMap objectText).length, _, _, _,
    hheader.append (passage_catalog.append ((passage_pageList pages.length).append
      ((passage_font 3 .regular).append (passage_font 4 .bold)))),
    (passage_pageObjects config 0 pages).append (passage_tableText _), ?_⟩
  simp only [fileText, trailer_split, objects, List.flatMap_append, List.flatMap_cons,
    List.flatMap_nil, List.append_nil, List.append_assoc]

/-- The end of a file names the object that tells about the document. -/
theorem informationId?_tokens (pages : List Page) (title : String) (config : PageConfig) :
    informationId? (tokens (fileText pages title config)) = some 5 := by
  obtain ⟨front, middle, position, m, d', m', hfront, hmiddle, htext⟩ :=
    fileText_parts pages title config
  rw [htext, ((hfront.append (passage_information title)).append hmiddle).reads.tokens_append]
  exact informationId?_append _ (informationId?_closingText position)

/-- This object is the first one of its number, and it has the title. -/
theorem titleIn?_tokens (pages : List Page) (title : String) (config : PageConfig) :
    titleIn? (tokens (fileText pages title config)) 5 = some (escapeChars title.toList) := by
  obtain ⟨front, middle, position, m, d', m', hfront, -, htext⟩ := fileText_parts pages title config
  have hhead : Reads
      [.word (decimal 5), .word ['0'], .word defining, .mark ['<', '<'], .name "Title".toList]
      (decimal 5 ++ " 0 obj\n<< /Title ".toList) := by
    unfold Reads
    decide
  -- Behind the title are the rest of its object and what follows.
  obtain ⟨back, hobject⟩ : ∃ back,
      objectText (information title) ++ (middle ++ closingText position) =
        decimal 5 ++ " 0 obj\n<< /Title ".toList ++
          ('(' :: escapeChars title.toList ++ ')' :: back) := by
    refine ⟨" /Producer (".toList ++ (escapeChars producer.toList ++ (") >>".toList ++
      ("\nendobj\n".toList ++ (middle ++ closingText position)))), ?_⟩
    simp only [objectText, information, List.append_assoc]
    rfl
  have hother : some 5 ∉ named defining none none (Lexer.gap.run front).1 := by
    rw [hfront.defines]
    decide
  obtain ⟨a, b, hbody⟩ := bodyFrom_append hother
    (tokens (objectText (information title) ++ (middle ++ closingText position)))
  rw [titleIn?, htext, List.append_assoc, List.append_assoc, hfront.reads.tokens_append, hbody,
    hobject, hhead.tokens_append, tokens_literal, List.cons_append, List.cons_append,
    List.cons_append, bodyFrom_head]
  simp [valueOf?]

/-- The string that holds the title, whatever the title is. -/
theorem titleString?_tokens (pages : List Page) (title : String) (config : PageConfig) :
    titleString? (tokens (fileText pages title config)) = some (escapeChars title.toList) := by
  rw [titleString?, informationId?_tokens, Option.bind_some, titleIn?_tokens]

end Finding

section Reading

/-- The characters that have a byte which stands for another character outside of a page,
or for none, with that character. -/
def confusions : List (Char × Option Char) :=
  [ ('\u2018', some '\u201A'), ('\u2019', some '\u2122'), ('\u201C', some '\uFB01'),
    ('\u201D', some '\uFB02'), ('\u2022', some '\u0141'), ('\u2013', some '\u0152'),
    ('\u2014', some '\u0160'), ('\u2026', some '\u2013'), ('\u20AC', some '\u2022'),
    ('\u00A0', some '\u20AC'), ('\u00AD', none) ]

/-- The character that is read for a character of a title. -/
def titleChar? (c : Char) : Option Char :=
  (confusions.lookup c).getD (some (shownChar c))

theorem lookup_confusions {c : Char} {read : Option Char} (h : confusions.lookup c = some read) :
    textChar? (byteOf c) = read ∧ read ≠ some (shownChar c) := by
  have hall : ∀ p ∈ confusions, textChar? (byteOf p.1) = p.2 ∧ p.2 ≠ some (shownChar p.1) := by
    decide
  obtain ⟨front, back, heq, -⟩ := List.lookup_eq_some_iff.mp h
  exact hall (c, read) (heq ▸ List.mem_append_right _ List.mem_cons_self)

theorem lookup_confusions_eq_none_iff (c : Char) :
    confusions.lookup c = none ↔ c ∉ confusions.map Prod.fst := by
  rw [List.lookup_eq_none_iff]
  constructor
  · intro h hmem
    obtain ⟨p, hp, heq⟩ := List.mem_map.mp hmem
    exact bne_iff_ne.mp (h p hp) heq.symm
  · intro h p hp
    exact bne_iff_ne.mpr fun heq => h (List.mem_map.mpr ⟨p, hp, heq.symm⟩)

/-- The bytes that both encodings have the same character for. -/
def IsShared (byte : Nat) : Prop :=
  (0x20 ≤ byte ∧ byte < 0x7F) ∨ (0xA1 ≤ byte ∧ byte < 0x100 ∧ byte ≠ 0xAD)

theorem textChar?_of_isShared {byte : Nat} (h : IsShared byte) :
    textChar? byte = winAnsi? byte := by
  have hfonts : (0x20 ≤ byte ∧ byte < 0x7F) ∨ (0xA0 ≤ byte ∧ byte < 0x100) :=
    h.imp_right fun h => ⟨by omega, h.2.1⟩
  unfold IsShared at h
  rw [textChar?, if_pos h, winAnsi?, if_pos hfonts]

/-- The byte of a character that is not confused is one that both encodings share. -/
theorem isShared_byteOf {c : Char} (h : confusions.lookup c = none) : IsShared (byteOf c) := by
  unfold byteOf
  split
  · rename_i hsame
    have hne (d : Char) (hd : d ∈ confusions.map Prod.fst) : c.toNat ≠ d.toNat := fun heq =>
      (lookup_confusions_eq_none_iff c).mp h (Char.toNat_inj.mp heq ▸ hd)
    have hspace : c.toNat ≠ 0xA0 := hne '\u00A0' (by decide)
    have hhyphen : c.toNat ≠ 0xAD := hne '\u00AD' (by decide)
    refine hsame.imp (fun hsame => ⟨hsame.1, Nat.lt_succ_of_le hsame.2⟩) fun hsame => ?_
    exact ⟨Nat.lt_of_le_of_ne hsame.1 hspace.symm, Nat.lt_succ_of_le hsame.2, hhyphen⟩
  · cases hbyte : punctuationByte? c with
    | none => exact .inl (by decide)
    | some byte =>
      -- All marks that are written are confused.
      unfold punctuationByte? at hbyte
      split at hbyte <;> first | exact absurd h (by decide) | cases hbyte

/-- What is read for each character. -/
theorem textChar?_byteOf (c : Char) : textChar? (byteOf c) = titleChar? c := by
  unfold titleChar?
  cases h : confusions.lookup c with
  | none => rw [textChar?_of_isShared (isShared_byteOf h), winAnsi?_byteOf, Option.getD_none]
  | some read => rw [(lookup_confusions h).1, Option.getD_some]

theorem titleChar?_eq_iff (c : Char) :
    titleChar? c = some (shownChar c) ↔ confusions.lookup c = none := by
  unfold titleChar?
  cases h : confusions.lookup c with
  | none => exact iff_of_true rfl rfl
  | some read => exact iff_of_false (lookup_confusions h).2 (Option.some_ne_none read)

theorem mapM_textChar? (cs : List Char) : (cs.map byteOf).mapM textChar? = cs.mapM titleChar? := by
  induction cs with
  | nil => rfl
  | cons c rest ih => rw [List.map_cons, List.mapM_cons, textChar?_byteOf, ih, List.mapM_cons]

/-- A text is read as it is shown if each of its characters is. -/
theorem mapM_titleChar?_eq_iff (cs : List Char) :
    cs.mapM titleChar? = some (cs.map shownChar) ↔ ∀ c ∈ cs, confusions.lookup c = none := by
  induction cs with
  | nil => exact iff_of_true rfl fun c hc => absurd hc List.not_mem_nil
  | cons c rest ih =>
    rw [List.forall_mem_cons, ← titleChar?_eq_iff, ← ih, List.mapM_cons, List.map_cons]
    cases titleChar? c <;> cases rest.mapM titleChar? <;> simp

theorem byteOf_eq_iff {c d : Char} (hd : '\u00a0' ≤ d ∧ d ≤ '\u00ff') :
    byteOf c = d.toNat ↔ c = d := by
  have hge : 0xA0 ≤ d.toNat := hd.1
  constructor
  · intro h
    unfold byteOf at h
    split at h
    · exact Char.toNat_inj.mp h
    · -- The bytes of the marks and of the question mark are below.
      unfold punctuationByte? at h
      split at h <;> exact absurd (h ▸ hge) (by decide)
  · rintro rfl
    rw [byteOf, if_pos (.inr hd)]

/-- What begins like a text in the other encoding has been written so. -/
theorem wideMark_prefix_iff (cs : List Char) :
    wideMark <+: cs.map byteOf ↔ ['\u00FE', '\u00FF'] <+: cs := by
  have hfirst (c : Char) : 0xFE = byteOf c ↔ '\u00FE' = c :=
    eq_comm.trans ((byteOf_eq_iff (d := '\u00FE') (by decide)).trans eq_comm)
  have hsecond (c : Char) : 0xFF = byteOf c ↔ '\u00FF' = c :=
    eq_comm.trans ((byteOf_eq_iff (d := '\u00FF') (by decide)).trans eq_comm)
  rcases cs with _ | ⟨c, _ | ⟨d, rest⟩⟩
  · exact iff_of_false (by decide) (by decide)
  · simp [wideMark, List.cons_prefix_cons]
  · simp only [wideMark, List.map_cons, List.cons_prefix_cons, List.nil_prefix, hfirst, hsecond]

/-- What is read for each title. -/
theorem readTitle_eq (pages : List Page) (title : String) (config : PageConfig) :
    readTitle (encode pages title config) =
      if ['\u00FE', '\u00FF'] <+: title.toList then none
      else (title.toList.mapM titleChar?).map String.ofList := by
  have htext : Utf8.characters (encode pages title config) = fileText pages title config :=
    Utf8.characters_encode (ascii_fileText pages title config)
  rw [readTitle, htext, titleString?_tokens, Option.bind_some, textString, unescape_escapeChars,
    mapM_textChar?]
  simp only [wideMark_prefix_iff]

/-- A title is read as it is shown on a page exactly if none of its characters is confused
with another one, and it does not begin like a text in the other encoding. Every other
character of a title is read as what the table of confusions says. -/
theorem readTitle_encode (pages : List Page) (title : String) (config : PageConfig) :
    readTitle (encode pages title config) =
        (if ['\u00FE', '\u00FF'] <+: title.toList then none
        else (title.toList.mapM titleChar?).map String.ofList) ∧
      (readTitle (encode pages title config) = some (shownText title) ↔
        ¬['\u00FE', '\u00FF'] <+: title.toList ∧
          ∀ c ∈ title.toList, c ∉ confusions.map Prod.fst) := by
  refine ⟨readTitle_eq pages title config, ?_⟩
  rw [readTitle_eq]
  split
  · rename_i hwide
    exact iff_of_false (by simp) (fun h => h.1 hwide)
  · rename_i hnarrow
    have hkeys : (∀ c ∈ title.toList, confusions.lookup c = none) ↔
        ∀ c ∈ title.toList, c ∉ confusions.map Prod.fst :=
      forall₂_congr fun c _ => lookup_confusions_eq_none_iff c
    rw [and_iff_right hnarrow, ← hkeys, ← mapM_titleChar?_eq_iff, shownText,
      Option.map_eq_some_iff]
    simp only [String.ofList_inj, exists_eq_right]

/-- The title of the curriculum vitae of a person with an apostrophe in the name. -/
def apostropheTitle : String := "Jane O\u2019Brien - Curriculum Vitae"

/-- The byte of a character of this title in the encoding of titles. -/
def apostropheByte (c : Char) : Nat :=
  if c = '\u2019' then 0x90 else c.toNat

/-- Not every title is read as it is, even of those that are written in full and whose
characters all have a byte in a title. -/
theorem not_forall_readTitle :
    ¬∀ (pages : List Page) (title : String) (config : PageConfig),
      (∀ c ∈ title.toList, isWritten c = true ∧ ∃ byte < 256, textChar? byte = some c) →
        readTitle (encode pages title config) = some title := by
  intro h
  have hall : apostropheTitle.toList.all (fun c => isWritten c && decide (apostropheByte c < 256) &&
      textChar? (apostropheByte c) == some c) = true := by
    decide
  have hbytes (c : Char) (hc : c ∈ apostropheTitle.toList) :
      isWritten c = true ∧ ∃ byte < 256, textChar? byte = some c := by
    have hc := List.all_eq_true.mp hall c hc
    rw [Bool.and_eq_true, Bool.and_eq_true, decide_eq_true_iff, beq_iff_eq] at hc
    exact ⟨hc.1.1, _, hc.1.2, hc.2⟩
  have hread := h [] apostropheTitle .standard hbytes
  -- The apostrophe is read as a trade mark sign.
  have hshown : readTitle (encode [] apostropheTitle .standard) =
      some "Jane O\u2122Brien - Curriculum Vitae" := by
    rw [readTitle_eq]
    decide
  rw [hshown] at hread
  exact absurd hread (by decide)

end Reading

end Pdf

end Vitae
