import Vitae.Document.Classify
import Vitae.Proofs.Number.Quotient

/-!
# The Kind of an Item

What kind an item is of is decided by a float: the similarity of its props and the
required ones has to reach one. The condition behind it is one about sets, that all
required props are there and nothing else but optional ones, and a float need not know the
difference between one and nearly one.

It does here. The required props are few, so the common props are few as well, and a share
of few things in more is a float below one, however many the more are.

Every kind requires a prop that no other kind has any use for. So no item is of two kinds,
and it does not matter which kind is asked for first.

## Main definitions

* `ItemKind.Fits`: The props that an item of a kind has.

## Theorems

* `one_le_similarity_iff`: The similarity reaches one exactly if the props fit.
* `ItemKind.Fits.unique`: Props fit one kind at most.
* `classify_eq_some_iff`: The kind found is the one that the props fit.
* `classify_fits`: Classification is about sets of props, and its table has no order.
-/

namespace Vitae

/-- Props that an item of a kind has: all that are required, and nothing else but optional
ones. -/
structure ItemKind.Fits (kind : ItemKind) (props : List String) : Prop where
  complete : ∀ key ∈ kind.required, key ∈ props
  only : ∀ key ∈ props, key ∈ kind.required ∨ key ∈ kind.optional

instance (kind : ItemKind) (props : List String) : Decidable (kind.Fits props) :=
  decidable_of_iff ((∀ key ∈ kind.required, key ∈ props) ∧
      ∀ key ∈ props, key ∈ kind.required ∨ key ∈ kind.optional)
    ⟨fun h => ⟨h.1, h.2⟩, fun h => ⟨h.complete, h.only⟩⟩

/-- Every kind requires a prop that another one has no use for. -/
theorem ItemKind.exists_required {a b : ItemKind} (h : a ≠ b) :
    ∃ key ∈ a.required, key ∉ b.required ∧ key ∉ b.optional := by
  revert h
  cases a <;> cases b <;> decide

/-- Props fit one kind at most. -/
theorem ItemKind.Fits.unique {a b : ItemKind} {props : List String} (ha : a.Fits props)
    (hb : b.Fits props) : a = b := by
  by_contra hne
  obtain ⟨key, hkey, hrequired, hoptional⟩ := ItemKind.exists_required hne
  rcases hb.only key (ha.complete key hkey) with h | h
  · exact hrequired h
  · exact hoptional h

theorem ItemKind.Fits.congr {kind : ItemKind} {props other : List String}
    (h : ∀ key, key ∈ other ↔ key ∈ props) : kind.Fits other ↔ kind.Fits props := by
  constructor
  · exact fun hfits => ⟨fun key hkey => (h key).mp (hfits.complete key hkey),
      fun key hkey => hfits.only key ((h key).mpr hkey)⟩
  · exact fun hfits => ⟨fun key hkey => (h key).mpr (hfits.complete key hkey),
      fun key hkey => hfits.only key ((h key).mp hkey)⟩

/-- The similarity reaches one exactly if the props fit. -/
theorem one_le_similarity_iff (props : List String) (kind : ItemKind) :
    1 ≤ similarity props kind ↔ kind.Fits props := by
  have hsome : 0 < kind.required.length ∧ kind.required.length ≤ 4 := by cases kind <;> decide
  have hapart : ∀ key ∈ kind.required, key ∉ kind.optional := by cases kind <;> decide
  obtain ⟨relevant, hrelevant⟩ : ∃ relevant,
      (props.filter (fun p => !kind.optional.contains p)).eraseDups = relevant := ⟨_, rfl⟩
  have hmem : ∀ key, key ∈ relevant ↔ key ∈ props ∧ key ∉ kind.optional := by
    intro key
    rw [← hrelevant, List.mem_eraseDups, List.mem_filter]
    simp
  have hcommon := List.length_filter_le (fun p => relevant.contains p) kind.required
  rw [similarity, hrelevant, Binary32.one_le_div_iff (by omega) (by omega) (by omega)]
  -- Nothing is missing if no required prop is, and nothing else is there.
  have hsplit : (kind.required.filter (fun p => relevant.contains p)).length =
      kind.required.length + (relevant.filter (fun p => !kind.required.contains p)).length ↔
      (kind.required.filter (fun p => relevant.contains p)).length = kind.required.length ∧
        relevant.filter (fun p => !kind.required.contains p) = [] := by
    rw [← List.length_eq_zero_iff]
    omega
  rw [hsplit, List.length_filter_eq_length_iff, List.filter_eq_nil_iff]
  simp only [List.contains_iff_mem, Bool.not_eq_true, Bool.not_eq_false', hmem]
  constructor
  · rintro ⟨hcomplete, honly⟩
    refine ⟨fun key hkey => (hcomplete key hkey).1, fun key hkey => ?_⟩
    by_cases hoptional : key ∈ kind.optional
    · exact .inr hoptional
    · exact .inl (honly key ⟨hkey, hoptional⟩)
  · intro hfits
    exact ⟨fun key hkey => ⟨hfits.complete key hkey, hapart key hkey⟩,
      fun key hkey => (hfits.only key hkey.1).resolve_right hkey.2⟩

/-- Whichever kind is asked for first, the kind found is the one that the props fit. -/
theorem find?_similarity_iff {table : List ItemKind} (htable : ∀ kind, kind ∈ table)
    (props : List String) (kind : ItemKind) :
    table.find? (fun kind => decide (1 ≤ similarity props kind)) = some kind ↔
      kind.Fits props := by
  constructor
  · intro hfind
    have hone := List.find?_some hfind
    exact (one_le_similarity_iff props kind).mp (of_decide_eq_true hone)
  · intro hfits
    have hone := decide_eq_true ((one_le_similarity_iff props kind).mpr hfits)
    have hfound : (table.find? (fun kind => decide (1 ≤ similarity props kind))).isSome = true :=
      List.find?_isSome.mpr ⟨kind, htable kind, hone⟩
    obtain ⟨other, hother⟩ := Option.isSome_iff_exists.mp hfound
    have hone' := List.find?_some hother
    rw [hother, ((one_le_similarity_iff props other).mp (of_decide_eq_true hone')).unique hfits]

theorem ItemKind.mem_all (kind : ItemKind) : kind ∈ ItemKind.all := by
  cases kind <;> decide

/-- The kind found is the one that the props fit. -/
theorem classify_eq_some_iff (props : List String) (kind : ItemKind) :
    classify props = some kind ↔ kind.Fits props :=
  find?_similarity_iff ItemKind.mem_all props kind

theorem classify_eq_none_iff (props : List String) :
    classify props = none ↔ ∀ kind : ItemKind, ¬kind.Fits props := by
  simp only [Option.eq_none_iff_forall_ne_some, ne_eq, classify_eq_some_iff]

/-- Classification decides which kind the props fit. No props fit two kinds, so the table
of kinds has no order, and neither order nor repeats of the props matter. -/
theorem classify_fits (props : List String) :
    (∀ kind, 1 ≤ similarity props kind ↔ kind.Fits props) ∧
      (∀ kind, classify props = some kind ↔ kind.Fits props) ∧
      (classify props = none ↔ ∀ kind : ItemKind, ¬kind.Fits props) ∧
      (∀ a b : ItemKind, a.Fits props → b.Fits props → a = b) ∧
      (∀ table : List ItemKind, table.Perm ItemKind.all →
        table.find? (fun kind => decide (1 ≤ similarity props kind)) = classify props) ∧
      ∀ other : List String, (∀ key, key ∈ other ↔ key ∈ props) →
        classify other = classify props := by
  refine ⟨one_le_similarity_iff props, classify_eq_some_iff props, classify_eq_none_iff props,
    fun a b ha hb => ha.unique hb, fun table htable => ?_, fun other hother => ?_⟩
  · refine Option.ext fun kind => ?_
    rw [find?_similarity_iff fun k => htable.mem_iff.mpr k.mem_all, classify_eq_some_iff]
  · refine Option.ext fun kind => ?_
    rw [classify_eq_some_iff, classify_eq_some_iff, ItemKind.Fits.congr hother]

end Vitae
