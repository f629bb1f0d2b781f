import Mathlib.Data.List.Induction
import Vitae.Document.Analysis

/-!
# Filing Items

What becomes of items that are filed one after the other, each under the name of
its section. The sections that come out group the items by name: no two of them
share a name, they stand in the order in which the names came up, and each lists
exactly the items that were filed under its name, in their order.

Filing looks for the first section of a name, so everything said about a section
rests on names being distinct. That is why distinctness comes first and the rest
is stated with it at hand.

The kind of a section is that of the item it was opened with. Nothing here says
that later items agree with it; `kindOf_file` only says which item decides.

## Main definitions

* `Analysis.filed`: The sections that a list of items is filed into.
* `Analysis.under`: The items of a list that go under a name.

## Theorems

* `eraseDups_filter`, `nodup_eraseDups`: First occurrences of a filtered list.
* `names_file`: Filing adds a name only if it is new.
* `names_filed`: The names of the sections, in order of first occurrence.
* `items_of_mem_filed`: A section lists the items filed under its name.
* `mem_of_mem_filed`: What stands in a section came with its name.
* `kind_of_mem_filed`: A section is of the kind of its first item.
* `length_filed`: No item is lost or doubled.
* `kindOf_file`: The first item under a name decides what may follow.
-/

namespace Vitae

/-- First occurrences are taken element by element, so leaving elements out
commutes with it. -/
theorem eraseDups_filter (keep : String → Bool) (names : List String) :
    (names.filter keep).eraseDups = names.eraseDups.filter keep := by
  cases names with
  | nil => rfl
  | cons name rest =>
      have hrest := eraseDups_filter keep (rest.filter (fun other => !other == name))
      by_cases hk : keep name = true
      · rw [List.filter_cons_of_pos hk, List.eraseDups_cons, List.eraseDups_cons,
          List.filter_cons_of_pos hk, ← hrest, List.filter_filter, List.filter_filter]
        simp only [Bool.and_comm]
      · rw [List.filter_cons_of_neg hk, List.eraseDups_cons, List.filter_cons_of_neg hk,
          ← hrest, List.filter_filter]
        -- A name that is left out anyway need not be struck from the rest.
        congr 1
        refine List.filter_congr (fun other _ => ?_)
        by_cases ho : other = name
        · simp only [ho, hk, beq_self_eq_true, Bool.not_true, Bool.and_false]
        · simp only [beq_eq_false_iff_ne.mpr ho, Bool.not_false, Bool.and_true]
termination_by names.length
decreasing_by
  have := List.length_filter_le (fun other => !other == name) rest
  simp only [List.length_cons]
  omega

theorem nodup_eraseDups (names : List String) : names.eraseDups.Nodup := by
  cases names with
  | nil => exact List.nodup_nil
  | cons name rest =>
      rw [List.eraseDups_cons]
      refine List.nodup_cons.mpr ⟨fun hmem => ?_, nodup_eraseDups _⟩
      have := (List.mem_filter.mp (List.mem_eraseDups.mp hmem)).2
      simp only [beq_self_eq_true, Bool.not_true, Bool.false_eq_true] at this
termination_by names.length
decreasing_by
  have := List.length_filter_le (fun other => !other == name) rest
  simp only [List.length_cons]
  omega

/-- One more name at the end counts only if it is new. -/
theorem eraseDups_concat (names : List String) (name : String) :
    (names ++ [name]).eraseDups =
      if name ∈ names then names.eraseDups else names.eraseDups ++ [name] := by
  rw [List.eraseDups_append]
  by_cases h : name ∈ names
  · simp [List.removeAll, h]
  · simp [List.removeAll, h, List.eraseDups_cons]

namespace Analysis

/-- The sections that a list of items is filed into, item by item, each under
the name it comes with. -/
def filed (items : List (String × Item)) : List Section :=
  items.foldl (fun sections one => file one.1 one.2 sections) []

/-- The items of a list that go under a name, in order. -/
def under (name : String) (items : List (String × Item)) : List Item :=
  (items.filter (fun one => one.1 == name)).map Prod.snd

@[simp]
theorem filed_concat (items : List (String × Item)) (name : String) (item : Item) :
    filed (items ++ [(name, item)]) = file name item (filed items) := by
  simp only [filed, List.foldl_append, List.foldl_cons, List.foldl_nil]

@[simp]
theorem under_concat_self (items : List (String × Item)) (name : String) (item : Item) :
    under name (items ++ [(name, item)]) = under name items ++ [item] := by
  simp [under]

theorem under_concat_of_ne (items : List (String × Item)) {name other : String} (item : Item)
    (h : other ≠ name) : under other (items ++ [(name, item)]) = under other items := by
  have hne : (name == other) = false := by simpa using fun he => h he.symm
  simp [under, hne]

theorem names_file (name : String) (item : Item) (sections : List Section) :
    (file name item sections).map Section.name =
      if name ∈ sections.map Section.name then sections.map Section.name
      else sections.map Section.name ++ [name] := by
  induction sections with
  | nil => simp [file]
  | cons s rest ih =>
      by_cases hs : s.name = name
      · simp [file, hs]
      · have hne : name ≠ s.name := fun he => hs he.symm
        simp only [file, if_neg hs, List.map_cons, ih, List.mem_cons, hne, false_or]
        split <;> rfl

/-- The names of the sections are those the items came with, in order of first
occurrence. -/
theorem names_filed (items : List (String × Item)) :
    (filed items).map Section.name = (items.map Prod.fst).eraseDups := by
  induction items using List.reverseRecOn with
  | nil => rfl
  | append_singleton items one ih =>
      obtain ⟨name, item⟩ := one
      rw [filed_concat, names_file, ih, List.map_append, List.map_singleton, eraseDups_concat]
      simp only [List.mem_eraseDups]

theorem nodup_names_filed (items : List (String × Item)) :
    ((filed items).map Section.name).Nodup := by
  rw [names_filed]
  exact nodup_eraseDups _

/-- Where names are distinct, filing changes one section at most, and it opens
one only for a new name. -/
theorem mem_file {name : String} {item : Item} {sections : List Section} {s : Section}
    (hnodup : (sections.map Section.name).Nodup) (h : s ∈ file name item sections) :
    (s ∈ sections ∧ s.name ≠ name) ∨
      (∃ t ∈ sections, t.name = name ∧ s = { t with items := t.items ++ [item] }) ∨
      (name ∉ sections.map Section.name ∧ s = ⟨name, item.kind, [item]⟩) := by
  induction sections with
  | nil =>
      refine Or.inr (Or.inr ⟨List.not_mem_nil, ?_⟩)
      simpa only [file, List.mem_singleton] using h
  | cons t rest ih =>
      obtain ⟨hfresh, hrest⟩ := List.nodup_cons.mp hnodup
      by_cases ht : t.name = name
      · rw [file, if_pos ht] at h
        rcases List.mem_cons.mp h with rfl | hs
        · exact Or.inr (Or.inl ⟨t, List.mem_cons_self, ht, rfl⟩)
        · -- A further section cannot have the name that was just found.
          refine Or.inl ⟨List.mem_cons_of_mem _ hs, fun hn => hfresh ?_⟩
          rw [ht, ← hn]
          exact List.mem_map_of_mem hs
      · rw [file, if_neg ht] at h
        rcases List.mem_cons.mp h with rfl | hs
        · exact Or.inl ⟨List.mem_cons_self, ht⟩
        · rcases ih hrest hs with ⟨hmem, hn⟩ | ⟨u, hu, hn, he⟩ | ⟨hn, he⟩
          · exact Or.inl ⟨List.mem_cons_of_mem _ hmem, hn⟩
          · exact Or.inr (Or.inl ⟨u, List.mem_cons_of_mem _ hu, hn, he⟩)
          · refine Or.inr (Or.inr ⟨?_, he⟩)
            simp only [List.map_cons, List.mem_cons, not_or]
            exact ⟨fun hn' => ht hn'.symm, hn⟩

/-- A section lists the items filed under its name, and nothing else. -/
theorem items_of_mem_filed {items : List (String × Item)} {s : Section} (h : s ∈ filed items) :
    s.items = under s.name items := by
  induction items using List.reverseRecOn generalizing s with
  | nil => exact absurd h List.not_mem_nil
  | append_singleton items one ih =>
      obtain ⟨name, item⟩ := one
      rw [filed_concat] at h
      rcases mem_file (nodup_names_filed items) h with ⟨hs, hn⟩ | ⟨t, ht, hn, rfl⟩ | ⟨hn, rfl⟩
      · rw [under_concat_of_ne items item hn]
        exact ih hs
      · simp only [hn, under_concat_self]
        rw [ih ht, hn]
      · -- The name is new, so no earlier item was filed under it.
        have hnone : under name items = [] := by
          rw [names_filed, List.mem_eraseDups] at hn
          simp only [under, List.map_eq_nil_iff, List.filter_eq_nil_iff, beq_iff_eq]
          exact fun one hone he => hn (List.mem_map.mpr ⟨one, hone, he⟩)
        simp only [under_concat_self, hnone, List.nil_append]

/-- A section is of the kind of its first item. In particular it has one. -/
theorem kind_of_mem_filed {items : List (String × Item)} {s : Section} (h : s ∈ filed items) :
    s.items.head?.map Item.kind = some s.kind := by
  induction items using List.reverseRecOn generalizing s with
  | nil => exact absurd h List.not_mem_nil
  | append_singleton items one ih =>
      obtain ⟨name, item⟩ := one
      rw [filed_concat] at h
      rcases mem_file (nodup_names_filed items) h with ⟨hs, _⟩ | ⟨t, ht, _, rfl⟩ | ⟨_, rfl⟩
      · exact ih hs
      · have hkind := ih ht
        cases hitems : t.items with
        | nil => simp [hitems] at hkind
        | cons first rest => simpa [hitems] using hkind
      · rfl

theorem exists_kind_of_mem_filed {items : List (String × Item)} {s : Section}
    (h : s ∈ filed items) : ∃ item ∈ s.items, item.kind = s.kind := by
  rcases Option.map_eq_some_iff.mp (kind_of_mem_filed h) with ⟨item, hhead, hkind⟩
  exact ⟨item, List.mem_of_mem_head? hhead, hkind⟩

/-- What stands in a section came with its name. -/
theorem mem_of_mem_filed {items : List (String × Item)} {s : Section} (h : s ∈ filed items)
    {item : Item} (hitem : item ∈ s.items) : (s.name, item) ∈ items := by
  rw [items_of_mem_filed h, under] at hitem
  rcases List.mem_map.mp hitem with ⟨one, hone, rfl⟩
  rcases List.mem_filter.mp hone with ⟨hone, hname⟩
  rw [← beq_iff_eq.mp hname]
  exact hone

theorem length_file (name : String) (item : Item) (sections : List Section) :
    ((file name item sections).flatMap Section.items).length =
      (sections.flatMap Section.items).length + 1 := by
  induction sections with
  | nil => rfl
  | cons s rest ih =>
      by_cases hs : s.name = name
      · simp only [file, if_pos hs, List.flatMap_cons, List.length_append, List.length_singleton]
        omega
      · simp only [file, if_neg hs, List.flatMap_cons, List.length_append, ih]
        omega

/-- No item is lost or doubled. -/
theorem length_filed (items : List (String × Item)) :
    ((filed items).flatMap Section.items).length = items.length := by
  induction items using List.reverseRecOn with
  | nil => rfl
  | append_singleton items one ih =>
      rw [filed_concat, length_file, ih, List.length_append, List.length_singleton]

/-- The kind of a section stays what it is once there is one. -/
theorem kindOf_file (name other : String) (item : Item) (sections : List Section) :
    kindOf (file name item sections) other =
      (kindOf sections other).or (if name = other then some item.kind else none) := by
  induction sections with
  | nil =>
      by_cases h : name = other
      · simp [file, kindOf, h]
      · simp [file, kindOf, h]
  | cons s rest ih =>
      by_cases ho : s.name = other
      · -- The section in question stands first, and filing keeps its kind.
        by_cases hs : s.name = name
        · simp [file, kindOf, hs, ← ho]
        · have hne : ¬other = name := fun he => hs (ho.trans he)
          simp [file, kindOf, ho, hne]
      · by_cases hs : s.name = name
        · have hne : name ≠ other := fun he => ho (hs.trans he)
          simp [file, kindOf, hs, hne]
        · simp only [kindOf] at ih
          simp [file, kindOf, hs, ho, ih]

end Analysis

end Vitae
