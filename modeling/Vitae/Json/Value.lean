import Vitae.Json.Fault

/-!
# JSON Values

The values a JSON text denotes. An object keeps one value for each key, the
last one given, and its keys are in ascending order, so two texts that list the
same members in another order denote the same value. Keys are compared by code
point, which for UTF-8 is the order of their bytes.

Whole numbers keep their exact value as long as a machine word holds it; every
other number is a double.

## Main definitions

* `Number`: A number as read.
* `Value`: A JSON value.
* `Members`: The members of an object, by ascending key.
* `Members.insert`: Gives a key a value, in place of any earlier one.
* `Members.get?`: The value of a key.
* `Members.ofPairs`: The members left when every pair is inserted in turn.
* `Members.Ascending`: The keys are in ascending order.

## Theorems

* `Members.get?_insert_self`: An inserted value is found.
* `Members.get?_insert_of_ne`: Other keys keep their values.
* `Members.ascending_ofPairs`: Inserting pairs in any order yields ascending
  keys.
-/

namespace Vitae

namespace Json

/-- A number as read. -/
inductive Number where
  /-- A whole number that fits a machine word. -/
  | whole (i : Int)
  /-- Any other number. -/
  | real (x : Float)

/-- A JSON value. -/
inductive Value where
  | null
  | boolean (b : Bool)
  | number (n : Number)
  | text (s : String)
  | list (values : List Value)
  | object (members : List (String × Value))

/-- What a number is called when something else was expected. -/
def Number.found : Number → Found
  | .whole i => .integer i
  | .real x => .real x

/-- The text of a value that is one. -/
def Value.text? : Value → Option String
  | .text s => some s
  | _ => none

/-- The elements of a value that is a list. -/
def Value.list? : Value → Option (List Value)
  | .list values => some values
  | _ => none

/-- The members of a value that is an object. -/
def Value.object? : Value → Option (List (String × Value))
  | .object members => some members
  | _ => none

def Value.isNull : Value → Bool
  | .null => true
  | _ => false

abbrev Members (α : Type) := List (String × α)

namespace Members

variable {α : Type}

/-- Gives `key` the value `value`, in place of any earlier one. -/
def insert (key : String) (value : α) : Members α → Members α
  | [] => [(key, value)]
  | (k, v) :: rest =>
    if key < k then (key, value) :: (k, v) :: rest
    else if key = k then (key, value) :: rest
    else (k, v) :: insert key value rest

def get? (members : Members α) (key : String) : Option α :=
  (members.find? (fun m => m.1 == key)).map Prod.snd

/-- The members left when every pair is inserted in turn. -/
def ofPairs (pairs : List (String × α)) : Members α :=
  pairs.foldl (fun members pair => insert pair.1 pair.2 members) []

/-- The keys are in ascending order, so none is repeated. -/
def Ascending (members : Members α) : Prop :=
  members.Pairwise (fun a b => a.1 < b.1)

theorem get?_insert_self (key : String) (value : α) (members : Members α) :
    get? (insert key value members) key = some value := by
  induction members with
  | nil => simp [insert, get?]
  | cons m rest ih =>
    obtain ⟨k, v⟩ := m
    simp only [insert]
    split
    · simp [get?]
    · split
      · simp [get?]
      · rename_i hne
        have : (k == key) = false := by simpa using fun h => hne h.symm
        simpa [get?, this] using ih

theorem get?_insert_of_ne {key other : String} (h : other ≠ key) (value : α)
    (members : Members α) : get? (insert key value members) other = get? members other := by
  have hk : (key == other) = false := by simpa using fun e => h e.symm
  induction members with
  | nil => simp [insert, get?, hk]
  | cons m rest ih =>
    obtain ⟨k, v⟩ := m
    simp only [insert]
    split
    · simp [get?, hk]
    · split
      · rename_i heq
        subst heq
        simp [get?, hk]
      · by_cases hko : k = other
        · simp [get?, hko]
        · have : (k == other) = false := by simpa using hko
          simpa [get?, this] using ih

theorem mem_insert {key : String} {value : α} {members : Members α} {m : String × α}
    (h : m ∈ insert key value members) : m = (key, value) ∨ m ∈ members := by
  induction members with
  | nil => simpa [insert] using h
  | cons n rest ih =>
    obtain ⟨k, v⟩ := n
    simp only [insert] at h
    split at h
    · simpa using h
    · split at h
      · rcases List.mem_cons.mp h with h | h
        · exact .inl h
        · exact .inr (List.mem_cons_of_mem _ h)
      · rcases List.mem_cons.mp h with h | h
        · exact .inr (h ▸ List.mem_cons_self)
        · exact (ih h).imp_right (List.mem_cons_of_mem _)

theorem ascending_insert (key : String) (value : α) {members : Members α}
    (h : Ascending members) : Ascending (insert key value members) := by
  induction members with
  | nil => simp [insert, Ascending]
  | cons n rest ih =>
    obtain ⟨k, v⟩ := n
    obtain ⟨hk, hrest⟩ := List.pairwise_cons.mp h
    simp only [insert]
    split
    · rename_i hlt
      refine List.pairwise_cons.mpr ⟨fun m hm => ?_, h⟩
      rcases List.mem_cons.mp hm with rfl | hm
      · exact hlt
      · exact String.lt_trans hlt (hk m hm)
    · split
      · rename_i heq
        subst heq
        exact List.pairwise_cons.mpr ⟨hk, hrest⟩
      · rename_i hle hne
        refine List.pairwise_cons.mpr ⟨fun m hm => ?_, ih hrest⟩
        rcases mem_insert hm with rfl | hm
        · exact Std.lt_of_le_of_ne (Std.not_lt.mp hle) (fun e => hne e.symm)
        · exact hk m hm

theorem ascending_ofPairs (pairs : List (String × α)) : Ascending (ofPairs pairs) := by
  suffices step : ∀ members : Members α, Ascending members →
      Ascending (pairs.foldl (fun members pair => insert pair.1 pair.2 members) members) from
    step [] List.Pairwise.nil
  induction pairs with
  | nil => exact fun _ h => h
  | cons p rest ih => exact fun members h => ih _ (ascending_insert p.1 p.2 h)

end Members

end Json

end Vitae
