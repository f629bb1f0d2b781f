import Vitae.Proofs.Pdf.Numeral

/-!
# Objects Named in a File

An object is defined by its number, a zero and the word `obj`, and referred to by its
number, a zero and the word `R`. Both are found by looking for the word and then at
the two tokens in front of it; a word without a number in front counts as naming no
object, so it cannot go unnoticed. Nothing inside a string or a comment is a token of
its own, so text that looks like a reference is none.

A `Passage` is a text that leaves nothing open and begins in a way that gives the
tokens in front of it no keyword to belong to. Passages are put together from left
to right, and what they define and mention adds up (`Passage.append`). A whole file
is a passage made of the passages of its parts.

## Main definitions

* `objectNumber`: The object that two tokens name.
* `named`: The objects named in front of a keyword.
* `definitions`, `references`: The objects that tokens define and refer to.
* `Passage`: A text with the objects it defines and mentions.
* `breaks`: Whether a text ends a word in front of it.

## Theorems

* `named_append`: A keyword looks back at two tokens and no further.
* `Passage.append`, `Passage.flatMap`: Passages add up.
* `Passage.word`, `Passage.ref`, `Passage.literal`: A numeral, a reference or a string
  in front of a passage.
* `Passage.head`: The head of an object defines it.
* `Passage.names`: What a file of one passage defines and refers to.
-/

namespace Vitae

namespace Pdf

/-- The object that two tokens name: a number and a zero. -/
def objectNumber : Option Token → Option Token → Option Nat
  | some (.word number), some (.word generation) =>
    if number.all Char.isDigit ∧ generation = ['0'] then some (Nat.ofDigitChars 10 number 0)
    else none
  | _, _ => none

/-- The objects that the two tokens in front of each occurrence of a keyword name,
`a` and `b` being those in front of the list. -/
def named (keyword : List Char) (a b : Option Token) : List Token → List (Option Nat)
  | [] => []
  | t :: rest =>
    if t = .word keyword then objectNumber a b :: named keyword b (some t) rest
    else named keyword b (some t) rest

/-- The word that defines an object. -/
def defining : List Char := ['o', 'b', 'j']

/-- The word that refers to an object. -/
def referring : List Char := ['R']

/-- The objects that tokens define, in order. -/
def definitions (ts : List Token) : List (Option Nat) :=
  named defining none none ts

/-- The objects that tokens refer to, in order. -/
def references (ts : List Token) : List (Option Nat) :=
  named referring none none ts

/-- A keyword looks back at two tokens and no further. -/
theorem named_append (keyword : List Char) (a b : Option Token) (ts us : List Token) :
    ∃ a' b', named keyword a b (ts ++ us) = named keyword a b ts ++ named keyword a' b' us := by
  induction ts generalizing a b with
  | nil => exact ⟨a, b, rfl⟩
  | cons t rest ih =>
      rcases ih b (some t) with ⟨a', b', h⟩
      refine ⟨a', b', ?_⟩
      rw [List.cons_append, named, named, h]
      split <;> rfl

theorem named_cons_of_ne {keyword : List Char} {t : Token} (h : t ≠ .word keyword)
    (a b : Option Token) (rest : List Token) :
    named keyword a b (t :: rest) = named keyword b (some t) rest := by
  rw [named, if_neg h]

/-- Tokens whose first two are no keyword do not look back at all. -/
theorem named_of_free {keyword : List Char} {ts : List Token}
    (h : ∀ t ∈ ts.take 2, t ≠ .word keyword) (a b : Option Token) :
    named keyword a b ts = named keyword none none ts := by
  rcases ts with _ | ⟨t, _ | ⟨u, rest⟩⟩
  · rfl
  · have ht := h t (by simp)
    rw [named_cons_of_ne ht, named_cons_of_ne ht]
    rfl
  · have ht := h t (by simp)
    have hu := h u (by simp)
    rw [named_cons_of_ne ht, named_cons_of_ne hu, named_cons_of_ne ht, named_cons_of_ne hu]

theorem objectNumber_decimal (id : Nat) :
    objectNumber (some (.word (decimal id))) (some (.word ['0'])) = some id := by
  have hdigits : (decimal id).all Char.isDigit = true :=
    List.all_eq_true.mpr fun c hc => isDigit_of_mem_decimal hc
  rw [objectNumber, if_pos ⟨hdigits, rfl⟩, ofDigitChars_decimal]

theorem named_keyword {keyword : List Char} (id : Nat) (hid : Token.word (decimal id) ≠ .word keyword)
    (hzero : Token.word ['0'] ≠ .word keyword) (a b : Option Token) (rest : List Token) :
    named keyword a b (.word (decimal id) :: .word ['0'] :: .word keyword :: rest) =
      some id :: named keyword (some (.word ['0'])) (some (.word keyword)) rest := by
  rw [named_cons_of_ne hid, named_cons_of_ne hzero, named, if_pos rfl, objectNumber_decimal]

theorem IsNumeral.ne_defining {cs : List Char} (h : IsNumeral cs) :
    Token.word cs ≠ .word defining :=
  fun heq => h.ne_of_mem (c := 'o') List.mem_cons_self rfl (Token.word.inj heq)

theorem IsNumeral.ne_referring {cs : List Char} (h : IsNumeral cs) :
    Token.word cs ≠ .word referring :=
  fun heq => h.ne_of_mem (c := 'R') List.mem_cons_self rfl (Token.word.inj heq)

/-- A text that leaves nothing open, with the objects it defines and the objects it
mentions, whatever the two tokens in front of it are. -/
structure Passage (defined mentioned : List Nat) (cs : List Char) : Prop where
  closed : (Lexer.gap.run cs).2 = .gap
  defines : ∀ a b, named defining a b (Lexer.gap.run cs).1 = defined.map some
  mentions : ∀ a b, named referring a b (Lexer.gap.run cs).1 = mentioned.map some

/-- Whether a text ends a word in front of it. -/
def breaks : List Char → Bool
  | [] => false
  | c :: _ => !isRegular c

namespace Passage

theorem nil : Passage [] [] [] where
  closed := rfl
  defines _ _ := rfl
  mentions _ _ := rfl

theorem append {d m d' m' : List Nat} {xs ys : List Char} (hx : Passage d m xs)
    (hy : Passage d' m' ys) : Passage (d ++ d') (m ++ m') (xs ++ ys) := by
  -- Nothing is open between the two, so the second is read as it would be alone.
  have hrun := Lexer.run_append .gap xs ys
  rw [hx.closed] at hrun
  refine ⟨?_, fun a b => ?_, fun a b => ?_⟩
  · rw [hrun]
    exact hy.closed
  · rcases named_append defining a b (Lexer.gap.run xs).1 (Lexer.gap.run ys).1 with ⟨a', b', h⟩
    rw [hrun, h, hx.defines, hy.defines, List.map_append]
  · rcases named_append referring a b (Lexer.gap.run xs).1 (Lexer.gap.run ys).1 with ⟨a', b', h⟩
    rw [hrun, h, hx.mentions, hy.mentions, List.map_append]

/-- Passages in a row that name nothing are one that names nothing. -/
theorem flatMap {α : Type} {f : α → List Char} {xs : List α}
    (h : ∀ x ∈ xs, Passage [] [] (f x)) : Passage [] [] (xs.flatMap f) := by
  induction xs with
  | nil => exact nil
  | cons x rest ih =>
      rw [List.flatMap_cons]
      exact (h x List.mem_cons_self).append (ih fun y hy => h y (List.mem_cons_of_mem _ hy))

/-- A fixed text is a passage if reading it says so. -/
theorem of_read {d m : List Nat} {cs : List Char}
    (h : (Lexer.gap.run cs).2 = .gap ∧
      (∀ t ∈ (Lexer.gap.run cs).1.take 2, t ≠ .word defining ∧ t ≠ .word referring) ∧
      definitions (Lexer.gap.run cs).1 = d.map some ∧
      references (Lexer.gap.run cs).1 = m.map some) : Passage d m cs := by
  rcases h with ⟨hclosed, hfree, hdefines, hmentions⟩
  -- The first two tokens are no keywords, so what stands in front does not matter.
  refine ⟨hclosed, fun a b => ?_, fun a b => ?_⟩
  · rw [named_of_free (fun t ht => (hfree t ht).1)]
    exact hdefines
  · rw [named_of_free (fun t ht => (hfree t ht).2)]
    exact hmentions

/-- A token that is no keyword can be put in front. -/
theorem of_cons {d m : List Nat} {cs rest : List Char} {t : Token}
    (hrun : Lexer.gap.run cs = (t :: (Lexer.gap.run rest).1, (Lexer.gap.run rest).2))
    (hdefining : t ≠ .word defining) (hreferring : t ≠ .word referring)
    (h : Passage d m rest) : Passage d m cs := by
  refine ⟨?_, fun a b => ?_, fun a b => ?_⟩
  · rw [hrun]
    exact h.closed
  · rw [hrun, named_cons_of_ne hdefining]
    exact h.defines _ _
  · rw [hrun, named_cons_of_ne hreferring]
    exact h.mentions _ _

/-- A text in parentheses names nothing, whatever it looks like. -/
theorem literal (text : List Char) {d m : List Nat} {rest : List Char} (h : Passage d m rest) :
    Passage d m ('(' :: escapeChars text ++ ')' :: rest) :=
  h.of_cons (Lexer.run_literal text rest) (by intro heq; cases heq) (by intro heq; cases heq)

theorem word {w : List Char} (hw : IsNumeral w) {d m : List Nat} {rest : List Char}
    (hbreak : breaks rest = true) (h : Passage d m rest) : Passage d m (w ++ rest) := by
  cases rest with
  | nil => exact absurd hbreak Bool.false_ne_true
  | cons c more =>
      -- A numeral is one token, and it is not spelled like a keyword.
      exact h.of_cons (hw.run ((Bool.not_eq_true' _).mp hbreak) more) hw.ne_defining
        hw.ne_referring

theorem space {d m : List Nat} {rest : List Char} (h : Passage d m rest) :
    Passage d m (' ' :: rest) := by
  have hspace : Passage [] [] [' '] := ⟨rfl, fun _ _ => rfl, fun _ _ => rfl⟩
  exact hspace.append h

theorem ref (id : Nat) {d m : List Nat} {rest : List Char} (hbreak : breaks rest = true)
    (h : Passage d m rest) : Passage d (id :: m) (Pdf.ref id ++ rest) := by
  have htail : Lexer.gap.run (" 0 R".toList ++ rest) =
      (.word ['0'] :: .word referring :: (Lexer.gap.run rest).1, (Lexer.gap.run rest).2) := by
    have hopen : Lexer.gap.run " 0 R".toList = ([.word ['0']], .word referring) := by decide
    rw [Lexer.run_append, hopen]
    cases rest with
    | nil => exact absurd hbreak Bool.false_ne_true
    | cons c more =>
        rw [Lexer.run_word_break _ ((Bool.not_eq_true' _).mp hbreak)]
        rfl
  -- So the reference is three tokens in front of those of the rest.
  have hrun : Lexer.gap.run (Pdf.ref id ++ rest) =
      (.word (decimal id) :: (Lexer.gap.run (" 0 R".toList ++ rest)).1,
        (Lexer.gap.run (" 0 R".toList ++ rest)).2) := by
    rw [Pdf.ref, List.append_assoc]
    exact (isNumeral_decimal id).run (c := ' ') rfl ("0 R".toList ++ rest)
  rw [htail] at hrun
  refine ⟨?_, fun a b => ?_, fun a b => ?_⟩
  · rw [hrun]
    exact h.closed
  · rw [hrun, named_cons_of_ne (isNumeral_decimal id).ne_defining, named_cons_of_ne (by decide),
      named_cons_of_ne (by decide)]
    exact h.defines _ _
  · rw [hrun, named_keyword id (isNumeral_decimal id).ne_referring (by decide), h.mentions,
      List.map_cons]

theorem head (id : Nat) : Passage [id] [] (decimal id ++ " 0 obj\n".toList) := by
  have htail : Lexer.gap.run " 0 obj\n".toList = ([.word ['0'], .word defining], .gap) := by
    decide
  have hrun : Lexer.gap.run (decimal id ++ " 0 obj\n".toList) =
      ([.word (decimal id), .word ['0'], .word defining], .gap) := by
    have hword := (isNumeral_decimal id).run (c := ' ') rfl "0 obj\n".toList
    rw [show ' ' :: "0 obj\n".toList = " 0 obj\n".toList from rfl, htail] at hword
    exact hword
  refine ⟨?_, fun a b => ?_, fun a b => ?_⟩
  · rw [hrun]
  · -- The keyword is the last of the three tokens, and the number is in front.
    rw [hrun, named_keyword id (isNumeral_decimal id).ne_defining (by decide)]
    rfl
  · rw [hrun, named_cons_of_ne (isNumeral_decimal id).ne_referring, named_cons_of_ne (by decide),
      named_cons_of_ne (by decide)]
    rfl

theorem names {d m : List Nat} {cs : List Char} (h : Passage d m cs) :
    definitions (tokens cs) = d.map some ∧ references (tokens cs) = m.map some := by
  have htokens : tokens cs = (Lexer.gap.run cs).1 := by
    rw [tokens, h.closed]
    exact List.append_nil _
  rw [htokens]
  exact ⟨h.defines none none, h.mentions none none⟩

end Passage

end Pdf

end Vitae
