import Vitae.Document.Item

/-!
# Document Sources

A document as it is written, before its items have been understood. An item is
either spelled out as a set of props or refers to one that is kept in another
file.

A prop that is given twice counts only once, with its last value. Such a repeat
is nearly always a slip, so repeats are recorded while reading, in the item and
in its labels, and are reported later with the other problems of the item.

## Main definitions

* `repeats`: The repeated entries of a list, each with its earlier occurrences.
* `Props`: The props of an item.
* `Props.ofMembers`: Props from the members of an object, in reading order.
* `RawItem`, `RawSection`, `Source`: A document as written.
* `Source.parse`: The document a text holds.
* `ItemFile.parse`: The items a text holds, by their ids.

## Theorems

* `Props.ascending`: The props are in ascending order of their keys.
-/

namespace Vitae

/-- The entries of a list that occurred before, in order, each with the number
of its earlier occurrences. `seen` lists what came before the list. -/
def repeatsAfter (seen : List String) : List String → List (String × Nat)
  | [] => []
  | key :: rest =>
    let later := repeatsAfter (key :: seen) rest
    if seen.count key = 0 then later else (key, seen.count key) :: later

/-- The entries of a list that occurred before, in order, each with the number
of its earlier occurrences. -/
def repeats (keys : List String) : List (String × Nat) :=
  repeatsAfter [] keys

/-- The props of an item. -/
structure Props where
  /-- The props by ascending key, each with the last value it was given. -/
  members : Json.Members Json.Value
  repeatedKeys : List (String × Nat)
  /-- The repeated keys of the labels, in reading order. -/
  repeatedLabels : List (String × Nat)
  /-- No key has two values. -/
  ascending : members.Ascending

/-- A value, with the repeated keys if it is an object. -/
structure Counted where
  value : Json.Value
  repeats : List (String × Nat)

/-- The prop that holds the labels of an item. -/
def labelsKey : String := "labels"

namespace Props

/-- Props from the members of an object, in reading order. When the labels are
given twice, it is the last ones that count. -/
def ofMembers (members : List (String × Counted)) : Props where
  members := Json.Members.ofPairs (members.map (fun m => (m.1, m.2.value)))
  repeatedKeys := repeats (members.map Prod.fst)
  repeatedLabels :=
    match (members.filter (fun m => m.1 == labelsKey)).getLast? with
    | some m => m.2.repeats
    | none => []
  ascending := Json.Members.ascending_ofPairs _

/-- A value of any kind that notes its repeated keys if it is an object. -/
def counted : Json.Reader Counted := fun depth bytes =>
  match Json.skipBlanks bytes with
  | 0x7B :: rest =>
    Json.nested (fun inner text => do
      let (pairs, rest) ← Json.objectBody (fun _ => Json.value) inner text
      .ok (⟨.object (Json.Members.ofPairs pairs), repeats (pairs.map Prod.fst)⟩, rest)) depth rest
  | _ => (Json.value depth bytes).map (fun (v, rest) => (⟨v, []⟩, rest))

/-- The value of a prop. Only the labels are looked at closely. -/
def valueOf (key : String) : Json.Reader Counted :=
  if key = labelsKey then counted
  else fun depth bytes => (Json.value depth bytes).map (fun (v, rest) => (⟨v, []⟩, rest))

/-- Props written as an object, described as `expected` where something else
stands. -/
def reader (expected : String) : Json.Reader Props := fun depth bytes =>
  (Json.membersOf expected valueOf depth bytes).map
    (fun (members, rest) => (ofMembers members, rest))

end Props

/-- An item as written. -/
inductive RawItem where
  /-- An item spelled out. -/
  | inline (props : Props)
  /-- An item kept in another file. -/
  | reference (text : String)

/-- A section as written. -/
structure RawSection where
  name : String
  items : List RawItem

/-- A document as written. -/
structure Source where
  personal : Personal
  sections : List RawSection

/-- An item as written. A text is a reference, whatever it says. -/
def RawItem.reader : Json.Reader RawItem := fun depth bytes =>
  match Json.skipBlanks bytes with
  | 0x22 :: rest => (Json.string rest).map (fun (s, rest) => (.reference s, rest))
  | _ =>
    (Props.reader "an item object or a \"file::id\" reference" depth bytes).map
      (fun (props, rest) => (.inline props, rest))

/-- How a section is read. Only its name must be given. -/
def RawSection.record : Json.Record RawSection where
  name := "RawSection"
  blank := ⟨"", []⟩
  fields :=
    [ .of "name" true (Json.textOf "a string") fun v s => { s with name := v },
      .of "items" false (Json.listOf RawItem.reader) fun v s => { s with items := v } ]

/-- How a document is read. The empty object is a document. -/
def Source.record : Json.Record Source where
  name := "SourceDocument"
  blank := ⟨.blank, []⟩
  fields :=
    [ .of "personal" false Personal.record.reader fun v s => { s with personal := v },
      .of "sections" false (Json.listOf RawSection.record.reader)
        fun v s => { s with sections := v } ]

def Source.parse (text : String) : Except Json.Fault Source :=
  Json.whole Source.record.reader (Utf8.encode text)

/-- The items kept in a file, by their ids. -/
abbrev ItemFile := Json.Members Props

/-- The items a text holds. Of two items with the same id the last one counts. -/
def ItemFile.parse (text : String) : Except Json.Fault ItemFile :=
  (Json.whole (Json.membersOf "a map" (fun _ => Props.reader "an item object"))
    (Utf8.encode text)).map Json.Members.ofPairs

end Vitae
