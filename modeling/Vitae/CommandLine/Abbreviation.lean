import Vitae.Text.Utf8

/-!
# Abbreviations

The two sources have flags of two letters, `-cv` and `-cl`. In a cluster of
one-letter flags there is no place for them, so they are spelled out before
anything else is read: alone, or with a value behind an equals sign.

Only an argument that is text is looked at. One that is not is passed on as it
is, whatever it begins with.

## Main definitions

* `Abbreviation`: A flag and what it stands for.
* `spellOut`: An argument with its abbreviation spelled out.
* `spellOutAll`: All arguments, spelled out.

## Theorems

* `length_spellOutAll`: Spelling out keeps the number of arguments.
-/

namespace Vitae

/-- A flag and what it stands for. -/
structure Abbreviation where
  short : Bytes
  long : Bytes
deriving DecidableEq, Repr

namespace Abbreviation

/-- Every abbreviation. -/
def all : List Abbreviation :=
  [⟨Utf8.encode "-cv", Utf8.encode "--cvjson"⟩, ⟨Utf8.encode "-cl", Utf8.encode "--cljson"⟩]

/-- The equals sign between a flag and its value. -/
def equals : UInt8 := 0x3D

/-- An argument with the abbreviation spelled out, if it makes use of it. -/
def expand? (abbreviation : Abbreviation) (argument : Bytes) : Option Bytes :=
  if argument = abbreviation.short then some abbreviation.long
  else
    ((abbreviation.short ++ [equals]).isPrefixOf? argument).map fun value =>
      abbreviation.long ++ equals :: value

end Abbreviation

def spellOut (argument : Bytes) : Bytes :=
  match Utf8.decode? argument with
  | none => argument
  | some _ => (Abbreviation.all.findSome? (·.expand? argument)).getD argument

def spellOutAll (arguments : List Bytes) : List Bytes :=
  arguments.map spellOut

theorem length_spellOutAll (arguments : List Bytes) :
    (spellOutAll arguments).length = arguments.length := by
  simp [spellOutAll]

end Vitae
