import Vitae.Pdf.Literal

/-!
# Characters in a Literal String

What a reader finds between parentheses. Backslashes are taken away first, which
leaves bytes, and the bytes are then looked up in the encoding of the fonts. Both
steps follow the rules for any file and not only for what is written here: an escape
has up to three octal digits and ends at the first character that is none, breaks of
lines count as one line feed each, and a backslash in front of anything else is as
good as none.

The encoding has a character for most bytes. Only some of them are written, and the
others come back as question marks.

## Main definitions

* `Unescaping`: What is open in front of a character of a literal.
* `unescape`: The bytes that a literal stands for.
* `winAnsi?`: The character of a byte.
* `isWritten`, `shownChar`: The characters that have a byte, and what becomes of others.

## Theorems

* `unescape_escapeChars`: The bytes of an escaped text, one for each character.
* `readText_escapeChars`: A text is read back as it is shown.
-/

namespace Vitae

namespace Pdf

/-- What is open in front of a character of a literal: nothing, a backslash, some
digits behind a backslash, or a carriage return that a line feed may follow. -/
inductive Unescaping where
  | plain
  | backslash
  | digits (value : Nat) (more : Nat)
  | carriageReturn
deriving DecidableEq, Repr

/-- The bytes of the letters that may follow a backslash. -/
def letterEscapes : List (Char × Nat) :=
  [('n', 0x0A), ('r', 0x0D), ('t', 0x09), ('b', 0x08), ('f', 0x0C)]

/-- The value of an octal digit. -/
def octalDigit? (c : Char) : Option Nat :=
  if '0' ≤ c ∧ c ≤ '7' then some (c.toNat - '0'.toNat) else none

namespace Unescaping

/-- What a character means where nothing is open. -/
def begin (c : Char) : List Nat × Unescaping :=
  if c = '\\' then ([], .backslash)
  else if c = '\r' then ([0x0A], .carriageReturn)
  else ([c.toNat], .plain)

/-- The bytes a character closes, and what it leaves open. Three digits are the most
there are, and of a number that is too great for a byte the lower bits count. -/
def step : Unescaping → Char → List Nat × Unescaping
  | .plain, c => begin c
  | .backslash, c =>
    match octalDigit? c with
    | some value => ([], .digits value 2)
    | none =>
      if c = '\n' then ([], .plain)
      else if c = '\r' then ([], .carriageReturn)
      else ([(letterEscapes.lookup c).getD c.toNat], .plain)
  | .digits value more, c =>
    match octalDigit? c with
    | some digit =>
      if more ≤ 1 then ([(8 * value + digit) % 256], .plain)
      else ([], .digits (8 * value + digit) (more - 1))
    | none => (value % 256 :: (begin c).1, (begin c).2)
  | .carriageReturn, c => if c = '\n' then ([], .plain) else begin c

/-- The bytes a text closes, and what it leaves open. -/
def run : Unescaping → List Char → List Nat × Unescaping
  | state, [] => ([], state)
  | state, c :: rest =>
    let (closed, next) := state.step c
    let (more, last) := run next rest
    (closed ++ more, last)

/-- The byte that the end of a literal closes. -/
def finish : Unescaping → List Nat
  | .digits value _ => [value % 256]
  | _ => []

end Unescaping

/-- The bytes that a literal stands for. -/
def unescape (cs : List Char) : List Nat :=
  (Unescaping.run .plain cs).1 ++ (Unescaping.run .plain cs).2.finish

/-- The characters of the bytes between ASCII and the upper half of Latin-1. -/
def punctuation : List (Nat × Char) :=
  [ (0x80, '\u20AC'), (0x82, '\u201A'), (0x83, '\u0192'), (0x84, '\u201E'), (0x85, '\u2026'),
    (0x86, '\u2020'), (0x87, '\u2021'), (0x88, '\u02C6'), (0x89, '\u2030'), (0x8A, '\u0160'),
    (0x8B, '\u2039'), (0x8C, '\u0152'), (0x8E, '\u017D'), (0x91, '\u2018'), (0x92, '\u2019'),
    (0x93, '\u201C'), (0x94, '\u201D'), (0x95, '\u2022'), (0x96, '\u2013'), (0x97, '\u2014'),
    (0x98, '\u02DC'), (0x99, '\u2122'), (0x9A, '\u0161'), (0x9B, '\u203A'), (0x9C, '\u0153'),
    (0x9E, '\u017E'), (0x9F, '\u0178') ]

/-- The character of a byte. -/
def winAnsi? (byte : Nat) : Option Char :=
  if (0x20 ≤ byte ∧ byte < 0x7F) ∨ (0xA0 ≤ byte ∧ byte < 0x100) then some (Char.ofNat byte)
  else punctuation.lookup byte

/-- The text that a literal stands for, if all of its bytes have characters. -/
def readText (cs : List Char) : Option String :=
  ((unescape cs).mapM winAnsi?).map String.ofList

/-- The punctuation marks that are written. -/
def writtenMarks : List Char :=
  ['\u2018', '\u2019', '\u201C', '\u201D', '\u2022', '\u2013', '\u2014', '\u2026', '\u20AC']

/-- Whether a character is written as it is. -/
def isWritten (c : Char) : Bool :=
  decide (' ' ≤ c ∧ c ≤ '~') || decide ('\u00a0' ≤ c ∧ c ≤ '\u00ff') || writtenMarks.contains c

/-- The character that is shown for a character. -/
def shownChar (c : Char) : Char :=
  if isWritten c then c else '?'

/-- The text that is shown for a text. -/
def shownText (text : String) : String :=
  String.ofList (text.toList.map shownChar)

namespace Unescaping

theorem run_cons (state : Unescaping) (c : Char) (rest : List Char) :
    state.run (c :: rest) =
      ((state.step c).1 ++ ((state.step c).2.run rest).1, ((state.step c).2.run rest).2) :=
  rfl

theorem run_append (state : Unescaping) (xs ys : List Char) :
    state.run (xs ++ ys) =
      ((state.run xs).1 ++ ((state.run xs).2.run ys).1, ((state.run xs).2.run ys).2) := by
  induction xs generalizing state with
  | nil => rfl
  | cons c rest ih => rw [List.cons_append, run_cons, ih, run_cons, List.append_assoc]

end Unescaping

/-- The byte that a character is written as. -/
def byteOf (c : Char) : Nat :=
  if (' ' ≤ c ∧ c ≤ '~') ∨ ('\u00a0' ≤ c ∧ c ≤ '\u00ff') then c.toNat
  else (punctuationByte? c).getD '?'.toNat

theorem octalDigit?_digitChar {n : Nat} (h : n < 8) : octalDigit? n.digitChar = some n := by
  have hall : ∀ n < 8, octalDigit? n.digitChar = some n := by decide
  exact hall n h

/-- Three digits behind a backslash are the byte they were made of. -/
theorem run_octal {byte : Nat} (h : byte < 256) :
    Unescaping.run .plain (octal byte) = ([byte], .plain) := by
  have hmod : ∀ n, n % 8 < 8 := fun n => Nat.mod_lt n (by decide)
  have hvalue : (8 * (8 * (byte / 64 % 8) + byte / 8 % 8) + byte % 8) % 256 = byte := by omega
  simp only [octal, Unescaping.run, Unescaping.step, Unescaping.begin, reduceIte,
    octalDigit?_digitChar (hmod _), List.nil_append, List.append_nil, Nat.reduceLeDiff,
    Nat.reduceSub, hvalue]

theorem run_plain {c : Char} (hbackslash : c ≠ '\\') (hreturn : c ≠ '\r') :
    Unescaping.run .plain [c] = ([c.toNat], .plain) := by
  simp only [Unescaping.run, Unescaping.step, Unescaping.begin, if_neg hbackslash, if_neg hreturn,
    List.append_nil]

theorem punctuationByte?_lt {c : Char} {byte : Nat} (h : punctuationByte? c = some byte) :
    byte < 256 := by
  unfold punctuationByte? at h
  split at h <;> cases h <;> decide

/-- An escaped character is one byte. -/
theorem run_escapeChar (c : Char) : Unescaping.run .plain (escapeChar c) = ([byteOf c], .plain) := by
  by_cases hspecial : c = '(' ∨ c = ')' ∨ c = '\\'
  · rcases hspecial with rfl | rfl | rfl <;> decide
  · rw [escapeChar, if_neg hspecial, byteOf]
    simp only [not_or] at hspecial
    split
    · rename_i hprintable
      have hreturn : c ≠ '\r' := by
        rintro rfl
        exact absurd hprintable.1 (by decide)
      rw [if_pos (.inl hprintable), run_plain hspecial.2.2 hreturn]
    · rename_i hprintable
      split
      · rename_i hlatin
        have hlt : c.toNat < 256 := Nat.lt_succ_of_le hlatin.2
        rw [if_pos (.inr hlatin), run_octal hlt]
      · rename_i hlatin
        rw [if_neg (not_or.mpr ⟨hprintable, hlatin⟩)]
        split
        · rename_i byte hbyte
          rw [hbyte, run_octal (punctuationByte?_lt hbyte), Option.getD_some]
        · rename_i hnone
          rw [hnone, Option.getD_none]
          rfl

theorem run_escapeChars (cs : List Char) :
    Unescaping.run .plain (escapeChars cs) = (cs.map byteOf, .plain) := by
  induction cs with
  | nil => rfl
  | cons c rest ih =>
      have hcons : escapeChars (c :: rest) = escapeChar c ++ escapeChars rest := rfl
      rw [hcons, Unescaping.run_append, run_escapeChar, ih]
      rfl

/-- The bytes of an escaped text, one for each character. -/
theorem unescape_escapeChars (cs : List Char) : unescape (escapeChars cs) = cs.map byteOf := by
  rw [unescape, run_escapeChars]
  exact List.append_nil _

theorem mem_writtenMarks_iff (c : Char) : c ∈ writtenMarks ↔ (punctuationByte? c).isSome = true := by
  constructor
  · intro hc
    have hall : (writtenMarks.all fun d => (punctuationByte? d).isSome) = true := rfl
    exact List.all_eq_true.mp hall c hc
  · intro hc
    rw [← List.contains_iff_mem]
    unfold punctuationByte? at hc
    split at hc <;> first | rfl | exact absurd hc Bool.false_ne_true

theorem lookup_punctuationByte {c : Char} {byte : Nat} (h : punctuationByte? c = some byte) :
    winAnsi? byte = some c := by
  unfold punctuationByte? at h
  split at h <;> cases h <;> decide

/-- The byte of a character stands for the character that is shown. -/
theorem winAnsi?_byteOf (c : Char) : winAnsi? (byteOf c) = some (shownChar c) := by
  have hmarks := mem_writtenMarks_iff c
  rw [byteOf, shownChar, isWritten]
  by_cases hsame : (' ' ≤ c ∧ c ≤ '~') ∨ ('\u00a0' ≤ c ∧ c ≤ '\u00ff')
  · have hrange : (0x20 ≤ c.toNat ∧ c.toNat < 0x7F) ∨ (0xA0 ≤ c.toNat ∧ c.toNat < 0x100) :=
      hsame.imp (fun h => ⟨h.1, Nat.lt_succ_of_le h.2⟩) (fun h => ⟨h.1, Nat.lt_succ_of_le h.2⟩)
    rw [if_pos hsame, winAnsi?, if_pos hrange, Char.ofNat_toNat, if_pos]
    rw [Bool.or_eq_true, Bool.or_eq_true, decide_eq_true_iff, decide_eq_true_iff]
    exact .inl hsame
  · rw [if_neg hsame]
    have hwritten : (decide (' ' ≤ c ∧ c ≤ '~') || decide ('\u00a0' ≤ c ∧ c ≤ '\u00ff') ||
        writtenMarks.contains c) = (punctuationByte? c).isSome := by
      rw [Bool.eq_iff_iff, ← hmarks, Bool.or_eq_true, Bool.or_eq_true, decide_eq_true_iff,
        decide_eq_true_iff, List.contains_iff_mem]
      exact ⟨fun h => h.resolve_left hsame, .inr⟩
    rw [hwritten]
    cases hbyte : punctuationByte? c with
    | none => rfl
    | some byte => exact lookup_punctuationByte hbyte

/-- A text is read back as it is shown. -/
theorem readText_escapeChars (text : String) :
    readText (escapeChars text.toList) = some (shownText text) := by
  have hbytes : ∀ cs : List Char, (cs.map byteOf).mapM winAnsi? = some (cs.map shownChar) := by
    intro cs
    induction cs with
    | nil => rfl
    | cons c rest ih => simp [List.mapM_cons, winAnsi?_byteOf, ih]
  rw [readText, unescape_escapeChars, hbytes, shownText]
  rfl

end Pdf

end Vitae
