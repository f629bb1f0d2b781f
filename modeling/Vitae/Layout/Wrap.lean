import Vitae.Style.Font
import Vitae.Text.Blank

/-!
# Filling Lines

Running text is broken into lines greedily: a word goes on the current line as
long as it fits, and begins the next one otherwise. A word that is wider than a
whole line has a line for itself. Words are never broken.

The width of the current line is a running sum. It is the sum that decides, so
the order in which it is added up is part of the rule.

## Main definitions

* `fill`: The words of a text, line by line.
* `wrap`: The lines of a text.
-/

namespace Vitae

/-- The words behind the current line, line by line. The current line is given
by its words, the last one first, and its running width. -/
def fillFrom (face : Face) (size limit : Float32) (line : List String) (width : Float32) :
    List String → List (List String)
  | [] => [line.reverse]
  | word :: rest =>
    let wordWidth := face.measure word size
    if width + face.space size + wordWidth > limit then
      line.reverse :: fillFrom face size limit [word] wordWidth rest
    else
      fillFrom face size limit (word :: line) (width + (face.space size + wordWidth)) rest

def fill (face : Face) (size limit : Float32) : List String → List (List String)
  | [] => []
  | word :: rest => fillFrom face size limit [word] (face.measure word size) rest

/-- The lines of a text at a size, none wider than `limit` if that can be
helped. Blank text has no lines. -/
def wrap (face : Face) (text : String) (size limit : Float32) : List String :=
  (fill face size limit (Text.words text)).map (" ".intercalate ·)

end Vitae
