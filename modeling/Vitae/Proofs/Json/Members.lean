import Mathlib.Data.List.Induction
import Vitae.Json.Value

/-!
# Members by Key

What the members of an object hold, told by the pairs that they came from: every key has
the value that it was given last. Members in ascending order have one value for each key,
so having a member and finding it come to the same.

## Main definitions

* `Members.last?`: The value that a key is given last.

## Theorems

* `Members.get?_eq_some_iff`: The value found for a key is the one it has.
* `Members.get?_ofPairs`: The value of a key is the one given last.
-/

namespace Vitae

namespace Json

namespace Members

variable {α : Type}

theorem mem_of_get? {members : Members α} {key : String} {value : α}
    (h : get? members key = some value) : (key, value) ∈ members := by
  obtain ⟨⟨k, v⟩, hfind, hvalue⟩ := Option.map_eq_some_iff.mp h
  have hkey : k = key := by simpa using List.find?_some hfind
  subst hkey hvalue
  exact List.mem_of_find?_eq_some hfind

/-- The value found for a key is the one it has. -/
theorem get?_eq_some_iff {members : Members α} (h : members.Ascending) {key : String}
    {value : α} : get? members key = some value ↔ (key, value) ∈ members := by
  refine ⟨mem_of_get?, fun hmem => ?_⟩
  induction members with
  | nil => exact absurd hmem List.not_mem_nil
  | cons first rest ih =>
      obtain ⟨hfirst, hrest⟩ := List.pairwise_cons.mp h
      rcases List.mem_cons.mp hmem with rfl | hmem
      · simp [get?]
      · -- A key that comes later is greater than the first one.
        have hne : (first.1 == key) = false := by
          have hlt := hfirst _ hmem
          exact beq_false_of_ne fun heq => String.lt_irrefl key (heq ▸ hlt)
        have htail := ih hrest hmem
        rw [get?] at htail ⊢
        rwa [List.find?_cons, hne]

/-- The value that a key is given last. -/
def last? (pairs : List (String × α)) (key : String) : Option α :=
  (pairs.filter (fun pair => pair.1 == key)).getLast?.map Prod.snd

theorem last?_concat (pairs : List (String × α)) (pair : String × α) (key : String) :
    last? (pairs ++ [pair]) key = if pair.1 = key then some pair.2 else last? pairs key := by
  rw [last?, List.filter_append]
  by_cases hkey : pair.1 = key
  · simp [hkey]
  · simp [hkey, last?]

/-- Values can be changed one by one, or the last one afterwards. -/
theorem last?_map {β : Type} (f : String → α → β) (pairs : List (String × α)) (key : String) :
    last? (pairs.map (fun pair => (pair.1, f pair.1 pair.2))) key =
      (last? pairs key).map (f key) := by
  induction pairs using List.reverseRecOn with
  | nil => rfl
  | append_singleton pairs pair ih =>
      rw [List.map_append, List.map_singleton, last?_concat, last?_concat, ih]
      by_cases hkey : pair.1 = key
      · simp [hkey]
      · simp [hkey]

/-- The value of a key is the one given last. -/
theorem get?_ofPairs (pairs : List (String × α)) (key : String) :
    get? (ofPairs pairs) key = last? pairs key := by
  induction pairs using List.reverseRecOn with
  | nil => rfl
  | append_singleton pairs pair ih =>
      have hstep : ofPairs (pairs ++ [pair]) = insert pair.1 pair.2 (ofPairs pairs) := by
        rw [ofPairs, List.foldl_append, List.foldl_cons, List.foldl_nil, ← ofPairs]
      rw [hstep, last?_concat]
      by_cases hkey : pair.1 = key
      · rw [if_pos hkey, ← hkey, get?_insert_self]
      · rw [if_neg hkey, get?_insert_of_ne (Ne.symm hkey), ih]

end Members

end Json

end Vitae
