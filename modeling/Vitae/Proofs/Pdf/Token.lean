import Vitae.Pdf.Literal

/-!
# Tokens of a File

A file is read from left to right, one character at a time. What a character means
depends on what is open in front of it: a word and a name end at the first character
that is not regular, a literal string ends at the parenthesis that balances its own,
and a comment at the end of its line. The reader therefore carries an open token,
`Lexer`, and every character closes some tokens and leaves another one open.

Two texts read one after the other are read as one text (`run_append`), so a file
can be read part by part. The text of a document only ever stands between
parentheses, where escaping keeps it: whatever the text is, it is one literal
(`run_literal`).

## Main definitions

* `Token`: A word, a name, a string or a mark.
* `Lexer`: What is open in front of a character.
* `Lexer.run`: The tokens a text closes, and what it leaves open.
* `tokens`: The tokens of a text.

## Theorems

* `run_append`: Texts are read one after the other.
* `run_word`: A word ends where a character is not regular.
* `run_escapeChars`: Escaped text leaves its literal open.
* `run_literal`: A text in parentheses is one literal.
-/

namespace Vitae

namespace Pdf

/-- A token of a file. A string in parentheses keeps its backslashes. -/
inductive Token where
  | word (cs : List Char)
  | name (cs : List Char)
  | literal (cs : List Char)
  | hex (cs : List Char)
  | mark (cs : List Char)
deriving DecidableEq, Repr

/-- What is open in front of a character. An open literal knows how many inner
parentheses are open and whether a backslash stands right in front. -/
inductive Lexer where
  | gap
  | word (seen : List Char)
  | name (seen : List Char)
  | literal (seen : List Char) (depth : Nat) (escaped : Bool)
  | less
  | hex (seen : List Char)
  | greater
  | comment
deriving DecidableEq, Repr

/-- The characters that stand between tokens. -/
def gaps : List Char := ['\x00', '\t', '\n', '\x0c', '\r', ' ']

/-- The characters that end a word and begin something else. -/
def delimiters : List Char := ['(', ')', '<', '>', '[', ']', '\x7b', '\x7d', '/', '%']

def isGap (c : Char) : Bool :=
  gaps.contains c

def isDelimiter (c : Char) : Bool :=
  delimiters.contains c

/-- The characters of words and names. -/
def isRegular (c : Char) : Bool :=
  !isGap c && !isDelimiter c

namespace Lexer

/-- What a character begins where nothing is open. -/
def begin (c : Char) : List Token × Lexer :=
  if isGap c then ([], .gap)
  else if c = '(' then ([], .literal [] 0 false)
  else if c = '/' then ([], .name [])
  else if c = '<' then ([], .less)
  else if c = '>' then ([], .greater)
  else if c = '%' then ([], .comment)
  else if isDelimiter c then ([.mark [c]], .gap)
  else ([], .word [c])

/-- The tokens a character closes, and what it leaves open. -/
def step : Lexer → Char → List Token × Lexer
  | .gap, c => begin c
  | .word seen, c =>
    if isRegular c then ([], .word (seen ++ [c]))
    else (.word seen :: (begin c).1, (begin c).2)
  | .name seen, c =>
    if isRegular c then ([], .name (seen ++ [c]))
    else (.name seen :: (begin c).1, (begin c).2)
  | .literal seen depth true, c => ([], .literal (seen ++ [c]) depth false)
  | .literal seen depth false, c =>
    if c = '\\' then ([], .literal (seen ++ [c]) depth true)
    else if c = '(' then ([], .literal (seen ++ [c]) (depth + 1) false)
    else if c = ')' then
      match depth with
      | 0 => ([.literal seen], .gap)
      | inner + 1 => ([], .literal (seen ++ [c]) inner false)
    else ([], .literal (seen ++ [c]) depth false)
  | .less, c =>
    if c = '<' then ([.mark ['<', '<']], .gap)
    else if c = '>' then ([.hex []], .gap)
    else ([], .hex [c])
  | .hex seen, c =>
    if c = '>' then ([.hex seen], .gap) else ([], .hex (seen ++ [c]))
  | .greater, c =>
    if c = '>' then ([.mark ['>', '>']], .gap)
    else (.mark ['>'] :: (begin c).1, (begin c).2)
  | .comment, c =>
    if c = '\n' ∨ c = '\r' then ([], .gap) else ([], .comment)

/-- The tokens a text closes, and what it leaves open. -/
def run : Lexer → List Char → List Token × Lexer
  | lexer, [] => ([], lexer)
  | lexer, c :: rest =>
    let (closed, next) := lexer.step c
    let (more, last) := run next rest
    (closed ++ more, last)

/-- The token that the end of a text closes. What must be closed by a character
of its own is not complete without it. -/
def finish : Lexer → List Token
  | .word seen => [.word seen]
  | .name seen => [.name seen]
  | _ => []

end Lexer

/-- The tokens of a text. -/
def tokens (cs : List Char) : List Token :=
  (Lexer.run .gap cs).1 ++ (Lexer.run .gap cs).2.finish

namespace Lexer

theorem step_gap (c : Char) : Lexer.gap.step c = begin c :=
  rfl

theorem step_word (seen : List Char) (c : Char) :
    (Lexer.word seen).step c =
      if isRegular c then ([], .word (seen ++ [c]))
      else (.word seen :: (begin c).1, (begin c).2) :=
  rfl

@[simp]
theorem run_nil (lexer : Lexer) : lexer.run [] = ([], lexer) :=
  rfl

theorem run_cons (lexer : Lexer) (c : Char) (rest : List Char) :
    lexer.run (c :: rest) =
      ((lexer.step c).1 ++ ((lexer.step c).2.run rest).1, ((lexer.step c).2.run rest).2) :=
  rfl

/-- Texts are read one after the other. -/
theorem run_append (lexer : Lexer) (xs ys : List Char) :
    lexer.run (xs ++ ys) =
      ((lexer.run xs).1 ++ ((lexer.run xs).2.run ys).1, ((lexer.run xs).2.run ys).2) := by
  induction xs generalizing lexer with
  | nil => rfl
  | cons c rest ih =>
      rw [List.cons_append, run_cons, ih, run_cons, List.append_assoc]

theorem run_append_of_open {lexer next : Lexer} {xs : List Char} (h : lexer.run xs = ([], next))
    (ys : List Char) : lexer.run (xs ++ ys) = next.run ys := by
  rw [run_append, h, List.nil_append]

theorem begin_of_regular {c : Char} (h : isRegular c = true) : begin c = ([], .word [c]) := by
  rw [isRegular, Bool.and_eq_true, Bool.not_eq_true', Bool.not_eq_true'] at h
  rcases h with ⟨hgap, hdelimiter⟩
  -- All characters that `begin` asks about are delimiters.
  have hne : ∀ d, isDelimiter d = true → c ≠ d := by
    intro d hd heq
    rw [← heq, hdelimiter] at hd
    exact Bool.false_ne_true hd
  rw [begin, if_neg (by rw [hgap]; exact Bool.false_ne_true), if_neg (hne '(' rfl),
    if_neg (hne '/' rfl), if_neg (hne '<' rfl), if_neg (hne '>' rfl), if_neg (hne '%' rfl),
    if_neg (by rw [hdelimiter]; exact Bool.false_ne_true)]

theorem run_word_regular (seen : List Char) {cs : List Char} (h : ∀ c ∈ cs, isRegular c = true) :
    (Lexer.word seen).run cs = ([], .word (seen ++ cs)) := by
  induction cs generalizing seen with
  | nil => rw [run_nil, List.append_nil]
  | cons c rest ih =>
      have hstep : (Lexer.word seen).step c = ([], .word (seen ++ [c])) := by
        rw [step_word, if_pos (h c List.mem_cons_self)]
      rw [run_cons, hstep, ih _ (fun d hd => h d (List.mem_cons_of_mem _ hd)), List.nil_append,
        List.append_assoc, List.singleton_append]

/-- A character that is not regular closes an open word and means what it means
where nothing is open. -/
theorem run_word_break (seen : List Char) {c : Char} (h : isRegular c = false)
    (rest : List Char) :
    (Lexer.word seen).run (c :: rest) =
      (.word seen :: (Lexer.gap.run (c :: rest)).1, (Lexer.gap.run (c :: rest)).2) := by
  have hne : ¬isRegular c = true := by
    rw [h]
    exact Bool.false_ne_true
  have hstep : (Lexer.word seen).step c = (.word seen :: (begin c).1, (begin c).2) := by
    rw [step_word, if_neg hne]
  rw [run_cons, hstep, run_cons, step_gap, List.cons_append]

/-- A word ends where a character is not regular. -/
theorem run_word {cs : List Char} (hne : cs ≠ []) (hcs : ∀ c ∈ cs, isRegular c = true)
    {c : Char} (hc : isRegular c = false) (rest : List Char) :
    Lexer.gap.run (cs ++ c :: rest) =
      (.word cs :: (Lexer.gap.run (c :: rest)).1, (Lexer.gap.run (c :: rest)).2) := by
  cases cs with
  | nil => exact absurd rfl hne
  | cons d more =>
      have hopen : Lexer.gap.run (d :: more) = ([], .word (d :: more)) := by
        rw [run_cons, step_gap, begin_of_regular (hcs d List.mem_cons_self),
          run_word_regular _ (fun e he => hcs e (List.mem_cons_of_mem _ he))]
        rfl
      -- The whole word is open when the break comes.
      rw [run_append_of_open hopen, run_word_break _ hc]

/-- A character that means nothing special in a literal. -/
def isPlain (c : Char) : Bool :=
  c != '(' && c != ')' && c != '\\'

theorem run_literal_plain (seen : List Char) {cs : List Char} (h : ∀ c ∈ cs, isPlain c = true) :
    (Lexer.literal seen 0 false).run cs = ([], .literal (seen ++ cs) 0 false) := by
  induction cs generalizing seen with
  | nil => rw [run_nil, List.append_nil]
  | cons c rest ih =>
      have hc := h c List.mem_cons_self
      simp only [isPlain, Bool.and_eq_true, bne_iff_ne] at hc
      have hstep : (Lexer.literal seen 0 false).step c =
          ([], .literal (seen ++ [c]) 0 false) := by
        rw [step, if_neg hc.2, if_neg hc.1.1, if_neg hc.1.2]
      rw [run_cons, hstep, ih _ (fun d hd => h d (List.mem_cons_of_mem _ hd)), List.nil_append,
        List.append_assoc, List.singleton_append]

theorem run_literal_backslash (seen : List Char) (c : Char) :
    (Lexer.literal seen 0 false).run ['\\', c] = ([], .literal (seen ++ ['\\', c]) 0 false) := by
  rw [run_cons, step, if_pos rfl, run_cons, step, run_nil, List.append_assoc]
  rfl

theorem run_octal (seen : List Char) (byte : Nat) :
    (Lexer.literal seen 0 false).run (octal byte) = ([], .literal (seen ++ octal byte) 0 false) := by
  have hdigit : ∀ n, n < 8 → isPlain n.digitChar = true := by decide
  have hplain : ∀ c ∈ [(byte / 8 % 8).digitChar, (byte % 8).digitChar], isPlain c = true := by
    intro c hc
    simp only [List.mem_cons, List.not_mem_nil, or_false] at hc
    rcases hc with rfl | rfl
    · exact hdigit _ (Nat.mod_lt _ (by decide))
    · exact hdigit _ (Nat.mod_lt _ (by decide))
  -- The first digit is behind the backslash, and the others stand on their own.
  have hsplit : octal byte = ['\\', (byte / 64 % 8).digitChar] ++
      [(byte / 8 % 8).digitChar, (byte % 8).digitChar] := rfl
  rw [hsplit, run_append_of_open (run_literal_backslash seen _), run_literal_plain _ hplain,
    List.append_assoc]

theorem run_escapeChar (seen : List Char) (c : Char) :
    (Lexer.literal seen 0 false).run (escapeChar c) =
      ([], .literal (seen ++ escapeChar c) 0 false) := by
  have hsingle : ∀ d, isPlain d = true →
      (Lexer.literal seen 0 false).run [d] = ([], .literal (seen ++ [d]) 0 false) := by
    intro d hd
    refine run_literal_plain seen (fun e he => ?_)
    rw [List.mem_singleton.mp he]
    exact hd
  by_cases hspecial : c = '(' ∨ c = ')' ∨ c = '\\'
  · rw [escapeChar, if_pos hspecial]
    exact run_literal_backslash seen c
  · -- What is written as it is means nothing special, and neither do octal digits.
    rw [escapeChar, if_neg hspecial]
    simp only [not_or] at hspecial
    split
    · refine hsingle c ?_
      simp only [isPlain, Bool.and_eq_true, bne_iff_ne]
      exact ⟨⟨hspecial.1, hspecial.2.1⟩, hspecial.2.2⟩
    · split
      · exact run_octal seen _
      · split
        · exact run_octal seen _
        · exact hsingle '?' rfl

/-- Escaped text leaves its literal open. -/
theorem run_escapeChars (seen cs : List Char) :
    (Lexer.literal seen 0 false).run (escapeChars cs) =
      ([], .literal (seen ++ escapeChars cs) 0 false) := by
  induction cs generalizing seen with
  | nil => rw [escapeChars, List.flatMap_nil, run_nil, List.append_nil]
  | cons c rest ih =>
      have hcons : escapeChars (c :: rest) = escapeChar c ++ escapeChars rest := rfl
      rw [hcons, run_append_of_open (run_escapeChar seen c), ih, List.append_assoc]

/-- A text in parentheses is one literal, whatever the text is. -/
theorem run_literal (cs rest : List Char) :
    Lexer.gap.run ('(' :: escapeChars cs ++ ')' :: rest) =
      (.literal (escapeChars cs) :: (Lexer.gap.run rest).1, (Lexer.gap.run rest).2) := by
  have hopen : Lexer.gap.run ('(' :: escapeChars cs) =
      ([], .literal (escapeChars cs) 0 false) := by
    have hbegin : Lexer.gap.step '(' = ([], .literal [] 0 false) := by decide
    rw [run_cons, hbegin, run_escapeChars]
    rfl
  have hclose : (Lexer.literal (escapeChars cs) 0 false).step ')' =
      ([.literal (escapeChars cs)], .gap) := by
    rw [step, if_neg (by decide), if_neg (by decide), if_pos rfl]
  -- Nothing in between has opened a parenthesis, so this one closes the string.
  rw [run_append_of_open hopen, run_cons, hclose, List.singleton_append]

end Lexer

end Pdf

end Vitae
