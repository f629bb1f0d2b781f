/-!
# Blank Text

The characters that count as space, and the three things a résumé needs to do
with them: strip them from the ends of a value, decide that a value holds
nothing else, and cut a text into words.

A space is a character with the Unicode property `White_Space`. The set is
closed and small, so it is written out as ranges. It is wider than the ASCII
set: a no-break space and an ideographic space separate words, whereas a
zero-width space and a byte-order mark do not.

Everything works on lists of characters, because that is what the later
arguments recurse on. `Text.trim` and its companions lift the functions to
strings.

## Main definitions

* `isSpace`: The characters with the property `White_Space`.
* `isBlank`: A text of spaces only, the empty text included.
* `trim`: A text without its leading and trailing spaces.
* `pieces`: A text cut at every character that satisfies a predicate.
* `words`: The maximal runs of characters that are not spaces.

## Theorems

* `pieces_ne_nil`: Cutting a text never yields nothing at all.
* `space_of_ascii`: The ASCII spaces are spaces.
-/

namespace Vitae

namespace Text

def isSpace (c : Char) : Bool :=
  let n := c.toNat
  (0x09 ≤ n && n ≤ 0x0D) || n == 0x20 || n == 0x85 || n == 0xA0 || n == 0x1680 ||
    (0x2000 ≤ n && n ≤ 0x200A) || n == 0x2028 || n == 0x2029 || n == 0x202F ||
    n == 0x205F || n == 0x3000

/-- The ASCII spaces are spaces: tab, the line ends and the blank itself. -/
theorem space_of_ascii {c : Char} (h : c.isWhitespace = true) : isSpace c = true := by
  simp only [Char.isWhitespace, Bool.or_eq_true, decide_eq_true_eq] at h
  rcases h with ((h | h) | h) | h <;> subst h <;> decide

/-- A list of characters without the spaces at its end. -/
def trimEnd (cs : List Char) : List Char :=
  (cs.reverse.dropWhile isSpace).reverse

/-- A list of characters without the spaces at either end. -/
def trimChars (cs : List Char) : List Char :=
  trimEnd (cs.dropWhile isSpace)

def trim (s : String) : String :=
  String.ofList (trimChars s.toList)

/-- A text that holds nothing but spaces. The empty text is blank. -/
def isBlank (s : String) : Bool :=
  s.toList.all isSpace

/-- A text cut at every character that satisfies `cut`. The cut characters are
dropped, and a text without one is a single piece, so the result is never
empty. -/
def pieces (cut : Char → Bool) : List Char → List (List Char)
  | [] => [[]]
  | c :: cs =>
    if cut c then [] :: pieces cut cs
    else
      match pieces cut cs with
      | [] => [[c]]
      | w :: ws => (c :: w) :: ws

theorem pieces_ne_nil (cut : Char → Bool) (cs : List Char) : pieces cut cs ≠ [] := by
  cases cs with
  | nil => simp [pieces]
  | cons c cs =>
    simp only [pieces]
    split
    · simp
    · split <;> simp

/-- The maximal runs of characters that are not spaces, in order. -/
def wordChars (cs : List Char) : List (List Char) :=
  (pieces isSpace cs).filter (fun w => !w.isEmpty)

def words (s : String) : List String :=
  (wordChars s.toList).map String.ofList

end Text

end Vitae
