import Mathlib.Tactic.SplitIfs
import Vitae.Json.Reader

/-!
# JSON as Written

What a JSON text says before anything is dropped. A value keeps one member for each key; what
is written may have a key any number of times, and the order counts. Everything else is the
same, so plain decoding is reading what is written and dropping the repeats afterwards
(`value_eq`), faults included.

Reading lists and objects is a loop over a reader of their parts. A function of the parts
that is applied along the way could as well be applied afterwards, to all of them, and that
is what the `map` lemmas say, one for each loop. The theorem is then an induction on the
levels that may still be opened, where what is inside of a bracket has one level less.

## Main definitions

* `Written`: A JSON value as it is written.
* `Written.value`: The value that is denoted.
* `Reader.map`: A reader with a function of what was read.
* `written`: Reads a value as it is written.
* `Written.pairs?`: All pairs of a value that is written as an object.

## Theorems

* `elements_map`, `members_map`: Parts can be changed while reading or afterwards.
* `value_eq`: The plain decoder is the reader of what is written, with repeats dropped.
* `written_of_brace`, `pairs?_of_written`: Objects are what stands behind a brace.
* `written_eq_ok_object_iff`: An object is written as a sequence of pairs.
-/

namespace Vitae

namespace Json

/-- A JSON value as it is written. -/
inductive Written where
  | null
  | boolean (b : Bool)
  | number (n : Number)
  | text (s : String)
  | list (values : List Written)
  /-- All pairs in reading order, with repeats. -/
  | object (pairs : List (String × Written))

namespace Written

mutual

/-- The value that is denoted. -/
def value : Written → Value
  | .null => .null
  | .boolean b => .boolean b
  | .number n => .number n
  | .text s => .text s
  | .list values => .list (valueEach values)
  | .object pairs => .object (Members.ofPairs (valueMembers pairs))

def valueEach : List Written → List Value
  | [] => []
  | first :: rest => first.value :: valueEach rest

def valueMembers : List (String × Written) → List (String × Value)
  | [] => []
  | (key, first) :: rest => (key, first.value) :: valueMembers rest

end

theorem valueEach_eq (values : List Written) : valueEach values = values.map value := by
  induction values with
  | nil => rfl
  | cons first rest ih => rw [valueEach, ih, List.map_cons]

theorem valueMembers_eq (pairs : List (String × Written)) :
    valueMembers pairs = pairs.map (fun pair => (pair.1, pair.2.value)) := by
  induction pairs with
  | nil => rfl
  | cons pair rest ih => rw [valueMembers, ih, List.map_cons]

@[simp] theorem value_list (values : List Written) :
    (list values).value = .list (values.map value) := by
  rw [value, valueEach_eq]

@[simp] theorem value_object (pairs : List (String × Written)) :
    (object pairs).value =
      .object (Members.ofPairs (pairs.map (fun pair => (pair.1, pair.2.value)))) := by
  rw [value, valueMembers_eq]

/-- Only what is written as an object denotes one. -/
theorem value_eq_object_iff {w : Written} {members : Members Value} :
    w.value = .object members ↔
      ∃ pairs, w = .object pairs ∧
        Members.ofPairs (pairs.map (fun pair => (pair.1, pair.2.value))) = members := by
  constructor
  · intro h
    cases w with
    | object pairs =>
        rw [value_object, Value.object.injEq] at h
        exact ⟨pairs, rfl, h⟩
    | _ => simp only [value, reduceCtorEq] at h
  · rintro ⟨pairs, rfl, rfl⟩
    exact value_object pairs

end Written

/-! ### Reading and a function -/

theorem map_ok {α β : Type} (f : α → β) (a : α) : f <$> (.ok a : Except Fault α) = .ok (f a) :=
  rfl

/-- A reader with a function of what was read. -/
def Reader.map {α β : Type} (f : α → β) (reader : Reader α) : Reader β := fun depth bytes =>
  Prod.map f id <$> reader depth bytes

section Map

variable {α β : Type}

theorem nested_map (f : α → β) (inside : Reader α) :
    nested (Reader.map f inside) = Reader.map f (nested inside) := by
  funext depth bytes
  match depth with
  | 0 => rfl
  | 1 => rfl
  | depth + 2 => rfl

/-- Elements can be changed one by one while reading, or all of them afterwards. -/
theorem elements_map (f : α → β) (element : Reader α) (depth fuel : Nat) (first : Bool)
    (bytes : Bytes) :
    elements (Reader.map f element) depth fuel first bytes =
      Prod.map (List.map f) id <$> elements element depth fuel first bytes := by
  induction fuel generalizing first bytes with
  | zero => rfl
  | succ fuel ih =>
      rw [elements, elements, map_bind]
      -- Where the next element is does not depend on what the others were read as.
      refine bind_congr fun next => ?_
      cases next with
      | none => rfl
      | some text =>
          simp only [Reader.map, bind_map_left, map_bind, ih]
          rfl

theorem listBody_map (f : α → β) (element : Reader α) :
    listBody (Reader.map f element) = Reader.map (List.map f) (listBody element) := by
  funext depth bytes
  rw [listBody, elements_map, bind_map_left, Reader.map, listBody, map_bind]
  refine bind_congr fun all => ?_
  rw [map_bind]
  rfl

/-- Members can be changed one by one while reading, or all of them afterwards. What is done
to a value may depend on its key. -/
theorem members_map (f : String → α → β) (member : String → Reader α) (depth fuel : Nat)
    (first : Bool) (bytes : Bytes) :
    members (fun key => Reader.map (f key) (member key)) depth fuel first bytes =
      Prod.map (List.map (fun pair => (pair.1, f pair.1 pair.2))) id <$>
        members member depth fuel first bytes := by
  induction fuel generalizing first bytes with
  | zero => rfl
  | succ fuel ih =>
      rw [members, members, map_bind]
      refine bind_congr fun next => ?_
      cases next with
      | none => rfl
      | some pair =>
          simp only [Reader.map, bind_map_left, map_bind] at ih ⊢
          simp only [ih, bind_map_left]
          rfl

theorem objectBody_map (f : String → α → β) (member : String → Reader α) :
    objectBody (fun key => Reader.map (f key) (member key)) =
      Reader.map (List.map (fun pair => (pair.1, f pair.1 pair.2))) (objectBody member) := by
  funext depth bytes
  rw [objectBody, members_map, bind_map_left, Reader.map, objectBody, map_bind]
  refine bind_congr fun all => ?_
  rw [map_bind]
  rfl

theorem membersOf_map (expected : String) (f : String → α → β) (member : String → Reader α) :
    membersOf expected (fun key => Reader.map (f key) (member key)) =
      Reader.map (List.map (fun pair => (pair.1, f pair.1 pair.2)))
        (membersOf expected member) := by
  funext depth bytes
  rw [membersOf, objectBody_map, nested_map, Reader.map, membersOf]
  split <;> rfl

end Map

/-! ### Reading what is written -/

/-- One value as it is written, read with a fixed allowance of levels. -/
def writtenWithin : (levels : Nat) → Bytes → Except Fault (Written × Bytes)
  | levels, bytes =>
    match skipBlanks bytes with
    | [] => .error .endInValue
    | b :: rest =>
      if b == 0x6E then do .ok (.null, ← word [0x75, 0x6C, 0x6C] rest)
      else if b == 0x74 then do .ok (.boolean true, ← word [0x72, 0x75, 0x65] rest)
      else if b == 0x66 then do .ok (.boolean false, ← word [0x61, 0x6C, 0x73, 0x65] rest)
      else if b == 0x2D || isDigit b then do
        let (n, rest) ← numeral (b :: rest)
        .ok (.number n, rest)
      else if b == 0x22 then do
        let (s, rest) ← string rest
        .ok (.text s, rest)
      else if b == 0x5B then
        match levels with
        | 0 => .error .tooDeep
        | inner + 1 => do
          let (all, rest) ← listBody (fun _ => writtenWithin inner) inner rest
          .ok (.list all, rest)
      else if b == 0x7B then
        match levels with
        | 0 => .error .tooDeep
        | inner + 1 => do
          let (all, rest) ← objectBody (fun _ _ => writtenWithin inner) inner rest
          .ok (.object all, rest)
      else .error .noValue

/-- Reads a value as it is written. -/
def written : Reader Written := fun depth => writtenWithin (depth - 1)

theorem valueWithin_eq (levels : Nat) (bytes : Bytes) :
    valueWithin levels bytes = Prod.map Written.value id <$> writtenWithin levels bytes := by
  induction levels generalizing bytes with
  | zero =>
      rw [valueWithin, writtenWithin]
      cases skipBlanks bytes with
      | nil => rfl
      | cons b rest =>
          simp only [apply_ite (Prod.map Written.value id <$> ·), map_bind]
          rfl
  | succ inner ih =>
      -- What is inside of a bracket has one level less.
      have hinner : (fun _ => valueWithin inner) =
          Reader.map Written.value (fun _ => writtenWithin inner) :=
        funext fun _ => funext ih
      have hlist : listBody (fun _ => valueWithin inner) =
          Reader.map (List.map Written.value) (listBody fun _ => writtenWithin inner) := by
        rw [hinner, listBody_map]
      have hobject : objectBody (fun _ _ => valueWithin inner) =
          Reader.map (List.map (fun pair => (pair.1, pair.2.value)))
            (objectBody fun _ _ => writtenWithin inner) := by
        rw [hinner, objectBody_map fun _ => Written.value]
      rw [valueWithin, writtenWithin]
      cases skipBlanks bytes with
      | nil => rfl
      | cons b rest =>
          simp only [hlist, hobject, Reader.map, bind_map_left, Prod.map, id,
            apply_ite (Prod.map Written.value id <$> ·), map_bind, map_ok,
            Written.value_list, Written.value_object]
          rfl

/-- The plain decoder is the reader of what is written, with repeats dropped. -/
theorem value_eq : value = Reader.map Written.value written := by
  funext depth bytes
  exact valueWithin_eq (depth - 1) bytes

/-! ### Objects -/

/-- All pairs of a value that is written as an object. -/
def Written.pairs? : Written → Option (List (String × Written))
  | .object pairs => some pairs
  | _ => none

/-- The allowance of levels counts only through what the members are read as. -/
theorem members_congr {α : Type} {a b : String → Reader α} {m n : Nat}
    (h : ∀ key bytes, a key m bytes = b key n bytes) (fuel : Nat) (first : Bool)
    (bytes : Bytes) : members a m fuel first bytes = members b n fuel first bytes := by
  induction fuel generalizing first bytes with
  | zero => rfl
  | succ fuel ih => simp only [members, h, ih]

theorem objectBody_congr {α : Type} {a b : String → Reader α} {m n : Nat}
    (h : ∀ key bytes, a key m bytes = b key n bytes) (bytes : Bytes) :
    objectBody a m bytes = objectBody b n bytes := by
  rw [objectBody, objectBody, members_congr h]

/-- Behind an opening brace stands an object. -/
theorem written_of_brace {bytes text : Bytes} (h : skipBlanks bytes = 0x7B :: text)
    (depth : Nat) :
    written depth bytes =
      nested (Reader.map .object (objectBody fun _ => written)) depth text := by
  rw [written, writtenWithin, h]
  match depth with
  | 0 => rfl
  | 1 => rfl
  | depth + 2 =>
      -- One side has the allowance fixed in its readers, the other hands it on.
      have hbody : objectBody (fun _ _ => writtenWithin depth) depth text =
          objectBody (fun _ => written) (depth + 1) text :=
        objectBody_congr (m := depth) (n := depth + 1) (a := fun _ _ => writtenWithin depth)
          (b := fun _ => written) (fun _ _ => rfl) text
      change (do
        let (all, rest) ← objectBody (fun _ _ => writtenWithin depth) depth text
        .ok (Written.object all, rest)) =
          Prod.map .object id <$> objectBody (fun _ => written) (depth + 1) text
      rw [hbody]
      cases objectBody (fun _ => written) (depth + 1) text <;> rfl

theorem pairs?_of_bind {α : Type} {read : Except Fault α} {finish : α → Written × Bytes}
    {w : Written} {rest : Bytes} (hfinish : ∀ a, (finish a).1.pairs? = none)
    (h : (read >>= fun a => .ok (finish a)) = .ok (w, rest)) : w.pairs? = none := by
  cases read with
  | error fault => cases h
  | ok a =>
      have hpair : finish a = (w, rest) := Except.ok.inj h
      simpa only [hpair] using hfinish a

/-- Where no brace opens there is no object. -/
theorem pairs?_of_written {bytes rest : Bytes} {depth : Nat} {w : Written}
    (hno : ∀ text, skipBlanks bytes ≠ 0x7B :: text)
    (h : written depth bytes = .ok (w, rest)) : w.pairs? = none := by
  rw [written, writtenWithin] at h
  cases hskip : skipBlanks bytes with
  | nil =>
      rw [hskip] at h
      cases h
  | cons b text =>
      have hb : (b == 0x7B) = false := beq_false_of_ne fun hb => hno text (hb ▸ hskip)
      simp only [hskip, hb, Bool.false_eq_true, if_false] at h
      -- A word, a number or a string, in the order of their first bytes, and last a list.
      split_ifs at h
      · exact pairs?_of_bind (fun _ => rfl) h
      · exact pairs?_of_bind (fun _ => rfl) h
      · exact pairs?_of_bind (fun _ => rfl) h
      · exact pairs?_of_bind (fun _ => rfl) h
      · exact pairs?_of_bind (fun _ => rfl) h
      · split at h
        · cases h
        · exact pairs?_of_bind (fun _ => rfl) h

/-- An object is written as a sequence of pairs, and reading its members gives this sequence. -/
theorem written_eq_ok_object_iff (expected : String) {depth : Nat} {bytes rest : Bytes}
    {pairs : List (String × Written)} :
    written depth bytes = .ok (.object pairs, rest) ↔
      membersOf expected (fun _ => written) depth bytes = .ok (pairs, rest) := by
  unfold membersOf
  split
  · rename_i text hskip
    rw [written_of_brace hskip, nested_map, Reader.map]
    cases nested (objectBody fun _ => written) depth text with
    | error fault => exact iff_of_false (fun h => by cases h) (fun h => by cases h)
    | ok read =>
        rw [map_ok]
        simp [Prod.ext_iff]
  · rename_i hno
    refine iff_of_false (fun h => ?_) (fun h => by cases h)
    have hnone := pairs?_of_written hno h
    cases hnone

end Json

end Vitae
