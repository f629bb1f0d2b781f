import Vitae.Number.Natural
import Vitae.Text.Blank

/-!
# Versions

A release is known by three numbers, of which the first counts most. Each is a
machine word. A version may be written with a `v` in front.

## Main definitions

* `Version`: A version.
* `Version.parse?`: The version a text denotes.
* `Version.text`: A version as it is written.
* `Version.le`: The order of versions.
-/

namespace Vitae

/-- A version. -/
structure Version where
  major : UInt32
  minor : UInt32
  patch : UInt32
deriving DecidableEq, Repr

namespace Version

/-- The number that one part of a version denotes. A plus sign in front of it
does not matter. -/
def part? (cs : List Char) : Option UInt32 :=
  (Natural.parse? 32 cs).map UInt32.ofNat

/-- A list of characters without the `v` in front, if there is one. -/
def withoutMark : List Char → List Char
  | 'v' :: rest => rest
  | cs => cs

def ofChars? (cs : List Char) : Option Version :=
  match Text.pieces (· == '.') (withoutMark cs) with
  | [a, b, c] => do
    let major ← part? a
    let minor ← part? b
    let patch ← part? c
    some ⟨major, minor, patch⟩
  | _ => none

/-- The version a text denotes. Spaces around it do not matter. -/
def parse? (text : String) : Option Version :=
  ofChars? (Text.trimChars text.toList)

def text (v : Version) : String :=
  toString v.major.toNat ++ "." ++ toString v.minor.toNat ++ "." ++ toString v.patch.toNat

/-- Whether a version comes before another one. -/
def lt (v w : Version) : Bool :=
  v.major < w.major ||
    (v.major == w.major && (v.minor < w.minor || (v.minor == w.minor && v.patch < w.patch)))

def le (v w : Version) : Bool :=
  !w.lt v

/-- The later of two versions. -/
def max (v w : Version) : Version :=
  if w.lt v then v else w

end Version

end Vitae
