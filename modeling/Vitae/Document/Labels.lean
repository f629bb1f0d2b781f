import Vitae.Text.Substring
import Vitae.Document.Classify

/-!
# Labels

An item can give names to texts and then invoke them: the name between two
pairs of braces stands for the text. Names and texts must not contain such
pairs themselves, so what has been inserted is never taken for an invocation.
An invocation of an unknown name is left as it is.

## Main definitions

* `Label`: A name and the text it stands for.
* `Label.invocation`: How a label is invoked.
* `hasInvocation`: A text has a pair of braces.
* `substitute`: A text with every invocation of a label resolved.
-/

namespace Vitae

/-- A name and the text it stands for. -/
structure Label where
  name : String
  text : String
deriving DecidableEq, Repr

/-- The two braces before an invoked name. -/
def openMark : List Char := ['\x7b', '\x7b']

/-- The two braces behind an invoked name. -/
def closeMark : List Char := ['\x7d', '\x7d']

def Label.invocation (label : Label) : List Char :=
  openMark ++ label.name.toList ++ closeMark

/-- Whether a text has a pair of braces, whole invocation or not. -/
def hasInvocation (text : String) : Bool :=
  Text.contains openMark text.toList || Text.contains closeMark text.toList

/-- A text with one label after the other resolved. -/
def substituteChars (labels : List Label) (text : List Char) : List Char :=
  labels.foldl (fun acc label => Text.replaceAll label.invocation label.text.toList acc) text

def substitute (labels : List Label) (text : String) : String :=
  String.ofList (substituteChars labels text.toList)

end Vitae
