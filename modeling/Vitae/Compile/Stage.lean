/-!
# Stages of a Compilation

The steps a document goes through, in order.

## Main definitions

* `Stage`: The stages.
* `Stage.all`: The stages, in the order they are entered.
-/

namespace Vitae

/-- The steps a document goes through. -/
inductive Stage where
  | load
  | analyze
  | layout
  | encode
  | write
deriving DecidableEq, Repr

namespace Stage

def all : List Stage := [.load, .analyze, .layout, .encode, .write]

def name : Stage → String
  | .load => "load"
  | .analyze => "analyze"
  | .layout => "layout"
  | .encode => "encode"
  | .write => "write"

end Stage

end Vitae
