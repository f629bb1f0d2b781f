import Vitae.Json.Reader

/-!
# Records in JSON

A record is a fixed set of named fields. Its usual form is an object, in which
the fields may come in any order, members of other names are skipped, and a
field that may be left out keeps the value it has in the blank record. Its
terse form is a list of the fields' values in the order of declaration, where
only fields at the end may be left out.

A field holds a reader that yields an update of the record, so one loop serves
every record, whatever the types of its fields are.

## Main definitions

* `Field`: A field of a record.
* `Record`: The fields of a record, with the record that has none set.
* `Record.fromMembers`: The object form, member by member.
* `Record.fromElements`: The list form, element by element.
* `Record.reader`: A record in either form.
-/

namespace Vitae

namespace Json

/-- A field of a record of type `σ`. -/
structure Field (σ : Type) where
  /-- The name of the field. -/
  key : String
  /-- Reads the value, as an update of the record. -/
  read : Reader (σ → σ)
  /-- Whether the field must be given. -/
  required : Bool

/-- The fields of a record of type `σ`. -/
structure Record (σ : Type) where
  /-- What the record is called in a fault. -/
  name : String
  fields : List (Field σ)
  /-- The record before any field is set. -/
  blank : σ

/-- A field from a reader of its value and a way to store the value. -/
def Field.of {σ α : Type} (key : String) (required : Bool) (reader : Reader α)
    (store : α → σ → σ) : Field σ where
  key := key
  required := required
  read depth bytes := (reader depth bytes).map (fun (x, rest) => (store x, rest))

namespace Record

variable {σ : Type}

/-- What was expected where a list gives too few fields. -/
def shape (r : Record σ) : String :=
  "struct " ++ r.name ++ " with " ++ toString r.fields.length ++
    (if r.fields.length = 1 then " element" else " elements")

/-- The first field that must be given and was not. -/
def firstMissing (r : Record σ) (seen : List String) : Option (Field σ) :=
  r.fields.find? (fun f => f.required && !seen.contains f.key)

/-- The object form from some member on. A field given twice is refused at its
second key, before anything behind the key is read. -/
def fromMembers (r : Record σ) (depth : Nat) :
    Nat → Bool → List String → σ → Bytes → Except Fault (σ × Bytes)
  | 0, _, _, _, _ => .error .endInObject
  | fuel + 1, first, seen, acc, bytes => do
    match ← nextKey first bytes with
    | none =>
      match r.firstMissing seen with
      | some f => .error (.missingField f.key)
      | none => .ok (acc, bytes)
    | some (key, rest) =>
      match r.fields.find? (fun f => f.key == key) with
      | none => fromMembers r depth fuel false seen acc (← skip (← passColon rest))
      | some f =>
        if seen.contains key then .error (.duplicateField key)
        else
          let (update, rest) ← f.read depth (← passColon rest)
          fromMembers r depth fuel false (key :: seen) (update acc) rest

/-- The list form, given the fields that are still to come and how many came
before. -/
def fromElements (r : Record σ) (depth : Nat) :
    List (Field σ) → Nat → σ → Bytes → Except Fault (σ × Bytes)
  | [], _, acc, bytes => .ok (acc, bytes)
  | f :: fs, count, acc, bytes => do
    match ← nextElement (count == 0) bytes with
    | none =>
      if f.required then .error (.wrongLength count r.shape)
      else fromElements r depth fs (count + 1) acc bytes
    | some rest =>
      let (update, rest) ← f.read depth rest
      fromElements r depth fs (count + 1) (update acc) rest

def reader (r : Record σ) : Reader σ := fun depth bytes =>
  match skipBlanks bytes with
  | 0x7B :: rest =>
    nested (fun inner text => do
      let (x, rest) ← r.fromMembers inner (text.length + 1) true [] r.blank text
      .ok (x, ← closeObject rest)) depth rest
  | 0x5B :: rest =>
    nested (fun inner text => do
      let (x, rest) ← r.fromElements inner r.fields 0 r.blank text
      .ok (x, ← closeList rest)) depth rest
  | _ => .error (unexpectedAt ("struct " ++ r.name) bytes)

end Record

end Json

end Vitae
