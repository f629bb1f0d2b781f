import Vitae.Text.Utf8

/-!
# The Environment

The variables that a run finds. The value of a variable need not be text.

## Main definitions

* `Environment`: The variables and their values.
* `Environment.get?`: The value of a variable.
* `Environment.text?`: The value of a variable, where it is text.
* `Environment.supply`: Gives a value to a variable that has none.

## Theorems

* `Environment.text?_supply_of_some`: A value that is there is kept.
-/

namespace Vitae

/-- The variables of a run and their values. -/
structure Environment where
  bindings : List (String × Bytes)
deriving DecidableEq, Repr

namespace Environment

/-- No variable has a value. -/
def empty : Environment := ⟨[]⟩

def get? (environment : Environment) (name : String) : Option Bytes :=
  environment.bindings.lookup name

/-- The value of a variable, if it has one that is text. -/
def text? (environment : Environment) (name : String) : Option String :=
  (environment.get? name).bind Utf8.decode?

/-- Gives a value to a variable, unless it has a text already. -/
def supply (environment : Environment) (name value : String) : Environment :=
  match environment.text? name with
  | some _ => environment
  | none => ⟨(name, Utf8.encode value) :: environment.bindings⟩

theorem text?_supply_of_some {environment : Environment} {name value old : String}
    (h : environment.text? name = some old) :
    (environment.supply name value).text? name = some old := by
  simp [supply, h]

end Environment

end Vitae
