import Mathlib.Data.Set.Function
import Vitae.Proofs.Pdf.Encoding
import Vitae.Proofs.Pdf.SevenBit

/-!
# Escaped Text

A text that is escaped can be put between parentheses wherever a string may stand. It
cannot get out of them, since it has no parenthesis without a backslash in front and its
last backslash has something behind it (`Contained`), and what a reader finds inside is
the text, one byte for each character. Three digits behind a backslash are as many as
there may be, so digits of the text that come next are never taken for more of them.

Escaping goes character by character. It therefore does not matter whether a text is
escaped in one piece or in several, and no two texts that can be written at all are
written alike.

## Main definitions

* `Contained`: A text that stays inside its parentheses.
* `Escapes`: What is asked of the way a text is written.

## Theorems

* `contained_escapeChars`: Escaped text stays inside its parentheses.
* `tokens_literal`: Escaped text in parentheses is one token.
* `escape_append`: Escaping goes piece by piece.
* `injOn_escape`: Texts of characters that are written are not written alike.
* `escapes_escape`: What escaping does to every text.
-/

namespace Vitae

namespace Pdf

/-- A text that stays inside its parentheses: each parenthesis in it has a backslash in
front, and so has each backslash that has none behind it. -/
inductive Contained : List Char → Prop where
  | nil : Contained []
  | plain {c : Char} {cs : List Char} (hc : Lexer.isPlain c = true) (h : Contained cs) :
      Contained (c :: cs)
  | escaped {c : Char} {cs : List Char} (h : Contained cs) : Contained ('\\' :: c :: cs)

theorem Contained.append {xs ys : List Char} (hx : Contained xs) (hy : Contained ys) :
    Contained (xs ++ ys) := by
  induction hx with
  | nil => exact hy
  | plain hc _ ih => exact .plain hc ih
  | escaped _ ih => exact .escaped ih

theorem contained_octal (byte : Nat) : Contained (octal byte) := by
  have hdigit : ∀ n < 8, Lexer.isPlain n.digitChar = true := by decide
  exact .escaped (.plain (hdigit _ (Nat.mod_lt _ (by decide)))
    (.plain (hdigit _ (Nat.mod_lt _ (by decide))) .nil))

theorem contained_escapeChar (c : Char) : Contained (escapeChar c) := by
  unfold escapeChar
  split
  · exact .escaped .nil
  · rename_i hspecial
    split
    · -- Of the visible characters only the special ones are not plain.
      simp only [not_or] at hspecial
      refine .plain ?_ .nil
      simp only [Lexer.isPlain, Bool.and_eq_true, bne_iff_ne]
      exact ⟨⟨hspecial.1, hspecial.2.1⟩, hspecial.2.2⟩
    · split
      · exact contained_octal _
      · split
        · exact contained_octal _
        · exact .plain rfl .nil

/-- Escaped text stays inside its parentheses. -/
theorem contained_escapeChars (cs : List Char) : Contained (escapeChars cs) := by
  induction cs with
  | nil => exact .nil
  | cons c rest ih => exact (contained_escapeChar c).append ih

/-- Escaped text in parentheses is one token, whatever stands behind it. -/
theorem tokens_literal (cs rest : List Char) :
    tokens ('(' :: escapeChars cs ++ ')' :: rest) = .literal (escapeChars cs) :: tokens rest := by
  rw [tokens, Lexer.run_literal, List.cons_append]
  rfl

theorem byteOf_lt (c : Char) : byteOf c < 256 := by
  unfold byteOf
  split
  · rename_i hsame
    rcases hsame with h | h
    · exact Nat.lt_of_le_of_lt h.2 (by decide)
    · exact Nat.lt_succ_of_le h.2
  · cases hbyte : punctuationByte? c with
    | none => decide
    | some byte => exact punctuationByte?_lt hbyte

theorem toList_escape (text : String) : (escape text).toList = escapeChars text.toList :=
  String.toList_ofList

/-- Escaping goes piece by piece. -/
theorem escape_append (s t : String) : escape (s ++ t) = escape s ++ escape t := by
  rw [escape, String.toList_append, escapeChars, List.flatMap_append, String.ofList_append]
  rfl

/-- A text of characters that are written is shown as it is. -/
theorem shownText_of_isWritten {text : String} (h : ∀ c ∈ text.toList, isWritten c = true) :
    shownText text = text := by
  have hsame : text.toList.map shownChar = text.toList.map id :=
    List.map_congr_left fun c hc => if_pos (h c hc)
  rw [shownText, hsame, List.map_id, String.ofList_toList]

/-- Texts of characters that are written are not written alike. -/
theorem injOn_escape : Set.InjOn escape {text | ∀ c ∈ text.toList, isWritten c = true} := by
  intro s hs t ht heq
  have hread : readText (escape s).toList = readText (escape t).toList := by rw [heq]
  rw [toList_escape, toList_escape, readText_escapeChars, readText_escapeChars,
    Option.some_inj] at hread
  rwa [shownText_of_isWritten hs, shownText_of_isWritten ht] at hread

/-- What is asked of the way a text is written. -/
structure Escapes (text : String) (cs : List Char) : Prop where
  /-- There is a byte for each character. -/
  length_bytes : (unescape cs).length = text.length
  byte_lt : ∀ byte ∈ unescape cs, byte < 256
  /-- The bytes are those of the text, but for characters that have none. -/
  read : readText cs = some (shownText text)
  visible : Visible cs
  contained : Contained cs
  /-- In parentheses it is one string, whatever stands behind it. -/
  literal : ∀ rest, tokens ('(' :: cs ++ ')' :: rest) = .literal cs :: tokens rest

/-- Every text is written so that it can be read back and stays inside its parentheses.
Texts one after the other are written one after the other, and different texts of
characters that are written are written differently. -/
theorem escapes_escape :
    (∀ text : String, Escapes text (escape text).toList) ∧
      (∀ s t : String, escape (s ++ t) = escape s ++ escape t) ∧
      Set.InjOn escape {text | ∀ c ∈ text.toList, isWritten c = true} := by
  refine ⟨fun text => ?_, escape_append, injOn_escape⟩
  rw [toList_escape]
  exact {
    length_bytes := by rw [unescape_escapeChars, List.length_map, String.length_toList]
    byte_lt := by
      rw [unescape_escapeChars]
      intro byte hbyte
      obtain ⟨c, -, rfl⟩ := List.mem_map.mp hbyte
      exact byteOf_lt c
    read := readText_escapeChars text
    visible := visible_escapeChars _
    contained := contained_escapeChars _
    literal := tokens_literal _ }

/-- A digit behind an escaped character is a character of its own. -/
example : unescape (escape "é1\\2 – (3").toList =
    [0xE9, 0x31, 0x5C, 0x32, 0x20, 0x96, 0x20, 0x28, 0x33] := by
  decide

end Pdf

end Vitae
