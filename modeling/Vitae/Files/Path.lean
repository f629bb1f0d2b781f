import Vitae.Text.Utf8

/-!
# Paths

Names of files as the operating system hands them over: byte strings cut by
slashes. Nothing promises that the bytes are text, so a path is shown through
the lenient reading of UTF-8 and never stored as a string.

Two paths that are written differently may mean the same: repeated slashes,
inner `.` steps and a slash at the end do not matter, while a leading `.` does.
`Path.parts` reads off what does matter, and `Path.parent` removes the last of
it.

## Main definitions

* `Path`: A path as written.
* `Part`: What a path is made of.
* `Path.parts`: The parts of a path, in order.
* `Path.join`: One path taken relative to another.
* `Path.parent`: A path without its last part.
* `Path.display`: A path as it is shown to a reader.
-/

namespace Vitae

/-- A path as written. -/
structure Path where
  bytes : Bytes
deriving DecidableEq, Repr

/-- What a path is made of. -/
inductive Part where
  /-- The root of the file system. -/
  | root
  /-- The directory itself, kept only at the beginning of a path. -/
  | here
  /-- The directory above. -/
  | up
  /-- A named entry. -/
  | name (bytes : Bytes)
deriving DecidableEq, Repr

namespace Path

/-- The byte that separates the parts of a path. -/
def slash : UInt8 := 0x2F

def ofText (s : String) : Path := ⟨Utf8.encode s⟩

def display (p : Path) : String := Utf8.decodeLossy p.bytes

/-- The stretches between the slashes of a byte string. The result is never
empty. -/
def segments : Bytes → List Bytes
  | [] => [[]]
  | b :: bs =>
    if b = slash then [] :: segments bs
    else
      match segments bs with
      | [] => [[b]]
      | s :: ss => (b :: s) :: ss

/-- The step to the directory itself, `.`. -/
def dot : Bytes := [0x2E]

/-- The step to the directory above, `..`. -/
def dotDot : Bytes := [0x2E, 0x2E]

/-- A path that starts at the root. -/
def isAbsolute (p : Path) : Bool :=
  p.bytes.head? == some slash

/-- The part a stretch stands for, where it stands inside a path. -/
def innerPart? (segment : Bytes) : Option Part :=
  if segment.isEmpty || segment == dot then none
  else if segment == dotDot then some .up
  else some (.name segment)

/-- The parts of a path, in order. Empty stretches and inner `.` steps are
dropped. -/
def parts (p : Path) : List Part :=
  match segments p.bytes with
  | [] => []
  | first :: rest =>
    let inner := rest.filterMap innerPart?
    if p.isAbsolute then .root :: inner
    else if first == dot then .here :: inner
    else (innerPart? first).toList ++ inner

/-- Two paths that are made of the same parts, however they are written. -/
def sameParts (p q : Path) : Bool :=
  p.parts == q.parts

/-- The path `q` taken relative to `p`. An absolute path stands for itself. -/
def join (p q : Path) : Path :=
  if q.isAbsolute then q
  else if p.bytes.isEmpty || p.bytes.getLast? == some slash then ⟨p.bytes ++ q.bytes⟩
  else ⟨p.bytes ++ slash :: q.bytes⟩

/-- The stretches of a path without those at the end that stand for nothing.
At the front of a relative path a `.` is a part of its own and is kept. -/
def dropIdle (relative : Bool) : List Bytes → List Bytes
  | [] => []
  | segment :: rest =>
    match dropIdle false rest with
    | [] =>
      if (innerPart? segment).isSome || (relative && segment == dot) then [segment] else []
    | kept => segment :: kept

/-- Stretches put together with slashes between them. -/
def glue : List Bytes → Bytes
  | [] => []
  | [segment] => segment
  | segment :: rest => segment ++ slash :: glue rest

/-- A path without its last part, as it was written. The root and the empty
path have none. -/
def parent (p : Path) : Option Path :=
  let relative := !p.isAbsolute
  let body := if relative then segments p.bytes else (segments p.bytes).drop 1
  match dropIdle relative body with
  | [] => none
  | kept =>
    let shorter := glue (dropIdle relative kept.dropLast)
    some ⟨if relative then shorter else slash :: shorter⟩

/-- The directory a file is written into: the path above it, or the current
directory for a bare name. -/
def directory (p : Path) : Path :=
  match p.parent with
  | some d => if d.bytes.isEmpty then ⟨dot⟩ else d
  | none => ⟨dot⟩

end Path

end Vitae
