import Vitae.Proofs.Analysis.Acceptance

/-!
# Thoroughness of the Analysis

Whether everything that is wrong with a source is reported at once.

What is reported can be told section by section, for any source (`reported_analyze_eq`):
a section with a blank name adds one problem, and every other section adds those of its
items, each list depending on the past through the kinds that were accepted. An item that
its own checks refuse adds all that they found, whatever stands in front of it, because a
refused item never gets as far as being compared with the past
(`itemProblems_of_refused`).

The items of a section without a name are the exception. They are passed over, so nothing
that is wrong with them is reported before the section has been given a name
(`not_forall_reported`). The source is refused nonetheless, on account of the name.

## Main definitions

* `reportFrom`: What is reported about sections, in order.

## Theorems

* `Analysis.problems_takeSections`: The problems of a walk over sections.
* `reported_analyze_eq`: What is reported about any source.
* `infix_reportFrom`, `blankName_mem_reportFrom`, `named_of_mem_reportFrom`: What is and
  what is not among it.
* `reported_of_refused`: An item that its checks refuse is reported with all that they found,
  or its section is.
-/

namespace Vitae

/-- What is reported about sections from the one of the given number on, in order, given
the items that were looked at in front of them. -/
def reportFrom (document : Kind) (load : String → LoadedFile) (before : List Placed) :
    Nat → List RawSection → List Problem
  | _, [] => []
  | number, s :: rest =>
    if Text.isBlank s.name then
      .blankName number :: reportFrom document load before (number + 1) rest
    else
      problemsFrom document load before s.placed ++
        reportFrom document load (before ++ s.placed) (number + 1) rest

variable {document : Kind} {load : String → LoadedFile} {before : List Placed}

namespace Analysis

variable {state : Analysis}

theorem reached_foldl_take (items : List Placed) (h : Reached document load before state) :
    Reached document load (before ++ items) (items.foldl (take document load) state) := by
  induction items generalizing before state with
  | nil => rwa [List.append_nil]
  | cons item rest ih =>
      have hrest := ih (reached_take h item)
      rwa [List.append_assoc, List.singleton_append] at hrest

/-- The walk over a section with a name is the walk over its items. -/
theorem takeSection_of_named {s : RawSection} (hnamed : Text.isBlank s.name = false)
    (number : Nat) (state : Analysis) :
    takeSection document load number s state = s.placed.foldl (take document load) state := by
  rw [takeSection, hnamed, if_neg Bool.false_ne_true, takeItems_eq_foldl, RawSection.placed]
  simp only [Nat.add_comm 1]

/-- The walk over a section without a name leaves one problem and knows no more than
before. -/
theorem reached_takeSection_of_blank {s : RawSection} (hblank : Text.isBlank s.name = true)
    (number : Nat) (h : Reached document load before state) :
    Reached document load before (takeSection document load number s state) := by
  rw [takeSection, if_pos hblank]
  exact ⟨h.shelf, h.kinds⟩

theorem problems_takeSections (h : Reached document load before state) (number : Nat)
    (sections : List RawSection) :
    (takeSections document load number sections state).problems =
      state.problems ++ reportFrom document load before number sections := by
  induction sections generalizing before state number with
  | nil => exact (List.append_nil _).symm
  | cons s rest ih =>
      rw [takeSections, reportFrom]
      cases hblank : Text.isBlank s.name with
      | true =>
          rw [ih (reached_takeSection_of_blank hblank number h), takeSection, if_pos hblank,
            if_pos rfl, List.append_assoc, List.singleton_append]
      | false =>
          rw [takeSection_of_named hblank, ih (reached_foldl_take s.placed h),
            problems_foldl_take s.placed h, if_neg Bool.false_ne_true, List.append_assoc]

end Analysis

/-- What is reported about any source. -/
theorem reported_analyze_eq (document : Kind) (load : String → LoadedFile) (source : Source) :
    reported (analyze document load source) = reportFrom document load [] 1 source.sections := by
  rw [reported_analyze, Analysis.run,
    Analysis.problems_takeSections (Analysis.reached_start document load)]
  rfl

/-- Where something is reported, the analysis fails with it. -/
theorem analyze_eq_error_of_mem {source : Source} {problem : Problem}
    (h : problem ∈ reported (analyze document load source)) :
    analyze document load source = .error (reported (analyze document load source)) := by
  cases hresult : analyze document load source with
  | ok doc =>
      rw [hresult] at h
      exact absurd h List.not_mem_nil
  | error problems => rfl

/-- An item that its own checks refuse is not compared with any other. -/
theorem itemProblems_of_refused {raw : RawItem} {causes : List ItemProblem}
    (h : raw.analyzed load = .error causes) (place : Location) (earlier : Option ItemKind) :
    itemProblems document place earlier (raw.found load) = causes.map (.item place) := by
  rw [RawItem.analyzed] at h
  rw [itemProblems, verdict, h]

/-- What is reported about one item is reported in one piece. -/
theorem infix_problemsFrom {items : List Placed} {item : Placed} (hitem : item ∈ items) :
    ∃ earlier, itemProblems document item.place earlier (item.raw.found load) <:+:
      problemsFrom document load before items := by
  obtain ⟨front, back, rfl⟩ := List.append_of_mem hitem
  refine ⟨firstKind document load (before ++ front) item.name, ?_⟩
  rw [problemsFrom_append, problemsFrom, ← List.append_assoc]
  exact List.infix_append ..

theorem place_of_mem_problemsFrom {items : List Placed} {place : Location} {cause : ItemProblem}
    (h : .item place cause ∈ problemsFrom document load before items) :
    ∃ item ∈ items, item.place = place := by
  induction items generalizing before with
  | nil => exact absurd h List.not_mem_nil
  | cons item rest ih =>
      rw [problemsFrom] at h
      rcases List.mem_append.mp h with h | h
      · refine ⟨item, List.mem_cons_self, ?_⟩
        unfold itemProblems at h
        split at h
        · exact absurd h List.not_mem_nil
        · obtain ⟨_, -, heq⟩ := List.mem_map.mp h
          exact (Problem.item.injEq .. ▸ heq).1
      · obtain ⟨other, hother, hplace⟩ := ih h
        exact ⟨other, List.mem_cons_of_mem item hother, hplace⟩

theorem name_of_mem_placed {s : RawSection} {item : Placed} (h : item ∈ s.placed) :
    item.place.sectionName = s.name := by
  obtain ⟨i, hi, rfl⟩ := List.mem_mapIdx.mp h
  rfl

theorem mem_placed {s : RawSection} {j : Nat} {raw : RawItem} (h : s.items[j]? = some raw) :
    ⟨⟨j + 1, s.name⟩, raw⟩ ∈ s.placed := by
  obtain ⟨hj, rfl⟩ := List.getElem?_eq_some_iff.mp h
  exact List.mem_mapIdx.mpr ⟨j, hj, rfl⟩

section Report

variable {sections : List RawSection} {s : RawSection} {number : Nat}

/-- Every item of a section with a name is reported on, whatever else there is. -/
theorem infix_reportFrom (hs : s ∈ sections) (hnamed : Text.isBlank s.name = false)
    {item : Placed} (hitem : item ∈ s.placed) :
    ∃ earlier, itemProblems document item.place earlier (item.raw.found load) <:+:
      reportFrom document load before number sections := by
  induction sections generalizing before number with
  | nil => exact absurd hs List.not_mem_nil
  | cons other rest ih =>
      rw [reportFrom]
      rcases List.mem_cons.mp hs with rfl | hs
      · rw [hnamed, if_neg Bool.false_ne_true]
        exact (infix_problemsFrom hitem).imp fun _ h => h.trans (List.prefix_append ..).isInfix
      · split
        · exact (ih hs).imp fun _ h => h.trans (List.suffix_cons ..).isInfix
        · exact (ih hs).imp fun _ h => h.trans (List.suffix_append ..).isInfix

theorem blankName_mem_reportFrom {i : Nat} (hs : sections[i]? = some s)
    (hblank : Text.isBlank s.name = true) :
    .blankName (number + i) ∈ reportFrom document load before number sections := by
  induction sections generalizing before number i with
  | nil => exact absurd hs (by simp)
  | cons other rest ih =>
      rw [reportFrom]
      cases i with
      | zero =>
          rw [List.getElem?_cons_zero, Option.some.injEq] at hs
          rw [hs, if_pos hblank]
          exact List.mem_cons_self
      | succ i =>
          rw [List.getElem?_cons_succ] at hs
          rw [Nat.add_comm i 1, ← Nat.add_assoc]
          split
          · exact List.mem_cons_of_mem _ (ih hs)
          · exact List.mem_append_right _ (ih hs)

/-- What is reported about an item is about one in a section with a name. -/
theorem named_of_mem_reportFrom {place : Location} {cause : ItemProblem}
    (h : .item place cause ∈ reportFrom document load before number sections) :
    Text.isBlank place.sectionName = false := by
  induction sections generalizing before number with
  | nil => exact absurd h List.not_mem_nil
  | cons s rest ih =>
      rw [reportFrom] at h
      cases hblank : Text.isBlank s.name with
      | true =>
          rw [hblank, if_pos rfl, List.mem_cons] at h
          rcases h with h | h
          · exact absurd h nofun
          · exact ih h
      | false =>
          rw [hblank, if_neg Bool.false_ne_true, List.mem_append] at h
          rcases h with h | h
          · obtain ⟨item, hitem, rfl⟩ := place_of_mem_problemsFrom h
            rw [name_of_mem_placed hitem, hblank]
          · exact ih h

end Report

/-- An item that its own checks refuse makes the analysis fail, and everything they found
is reported, in one piece and whatever else is wrong with the source. The exception are
the items of a section with a blank name: there the section is reported, and nothing about
the item is. -/
theorem reported_of_refused {source : Source} {i j : Nat} {s : RawSection} {raw : RawItem}
    {causes : List ItemProblem} (hs : source.sections[i]? = some s)
    (hraw : s.items[j]? = some raw) (h : raw.analyzed load = .error causes) :
    ∃ problems, analyze document load source = .error problems ∧
      if Text.isBlank s.name then
        .blankName (i + 1) ∈ problems ∧ ∀ cause, .item ⟨j + 1, s.name⟩ cause ∉ problems
      else causes.map (.item ⟨j + 1, s.name⟩) <:+: problems := by
  have hreport := reported_analyze_eq document load source
  cases hblank : Text.isBlank s.name with
  | true =>
      have hmem : .blankName (i + 1) ∈ reported (analyze document load source) := by
        rw [hreport, Nat.add_comm]
        exact blankName_mem_reportFrom hs hblank
      refine ⟨_, analyze_eq_error_of_mem hmem, ?_⟩
      rw [if_pos rfl]
      refine ⟨hmem, fun cause hcause => ?_⟩
      rw [hreport] at hcause
      exact Bool.false_ne_true ((named_of_mem_reportFrom hcause).symm.trans hblank)
  | false =>
      have hitem := mem_placed hraw
      obtain ⟨earlier, hoccurs⟩ :
          ∃ earlier, itemProblems document ⟨j + 1, s.name⟩ earlier (raw.found load) <:+:
            reportFrom document load [] 1 source.sections :=
        infix_reportFrom (List.mem_of_getElem? hs) hblank hitem
      rw [itemProblems_of_refused h, ← hreport] at hoccurs
      -- There is a cause, so something is reported.
      obtain ⟨cause, hcause⟩ := List.exists_mem_of_ne_nil _ (ne_nil_of_analyzedProps_eq_error h)
      have hmem := hoccurs.subset (List.mem_map_of_mem hcause)
      refine ⟨_, analyze_eq_error_of_mem hmem, ?_⟩
      rw [if_neg Bool.false_ne_true]
      exact hoccurs

/-! ### A misspelled prop -/

/-- Props of which the only one is not known. -/
def misspelled : Props :=
  .ofMembers [("paragraf", ⟨.text "Hello", []⟩)]

/-- A section without a name, and one with a name and a reference that leads nowhere. -/
def untidySource : Source :=
  ⟨.blank, [⟨" ", [.inline misspelled]⟩, ⟨"About", [.reference "jobs", .inline misspelled]⟩]⟩

/-- Item files without items. -/
def noItems : String → LoadedFile := fun _ => .ok []

theorem analyzed_misspelled :
    (RawItem.inline misspelled).analyzed noItems =
      .error [.unknownKey "paragraf", .unknownKind []] :=
  rfl

theorem reported_of_refused_untidy :
    (RawItem.inline misspelled).analyzed noItems =
        .error [.unknownKey "paragraf", .unknownKind []] ∧
      ∃ problems, analyze .cv noItems untidySource = .error problems ∧
        [.item ⟨2, "About"⟩ (.unknownKey "paragraf"), .item ⟨2, "About"⟩ (.unknownKind [])] <:+:
          problems := by
  have hsection : untidySource.sections[1]? =
      some ⟨"About", [.reference "jobs", .inline misspelled]⟩ := rfl
  exact ⟨analyzed_misspelled, reported_of_refused hsection (j := 1) rfl analyzed_misspelled⟩

/-- Not everything that is wrong with the items of a source is reported at once: where the
section has no name, its name is all that is reported. -/
theorem not_forall_reported :
    ¬ ∀ (document : Kind) (load : String → LoadedFile) (source : Source) (s : RawSection)
        (j : Nat) (raw : RawItem) (causes : List ItemProblem), s ∈ source.sections →
      s.items[j]? = some raw → raw.analyzed load = .error causes →
        ∃ problems, analyze document load source = .error problems ∧
          ∀ cause ∈ causes, .item ⟨j + 1, s.name⟩ cause ∈ problems := by
  intro h
  obtain ⟨problems, hproblems, hall⟩ := h .cv noItems ⟨.blank, [⟨" ", [.inline misspelled]⟩]⟩
    _ 0 _ _ List.mem_cons_self rfl analyzed_misspelled
  have hreported : problems = [.blankName 1] := (Except.error.inj hproblems).symm
  have hcause := hall _ List.mem_cons_self
  rw [hreported, List.mem_singleton] at hcause
  exact absurd hcause nofun

end Vitae
