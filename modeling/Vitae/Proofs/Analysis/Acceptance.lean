import Vitae.Proofs.Analysis.Walk

/-!
# Acceptance of a Source

When a source is accepted, and what is reported when it is not.

`Acceptable` lists the conditions without mentioning the analysis. They speak of
section names and of items under names, never of places, so they do not change
when sections or items trade places. The walk on the other hand goes from front
to back and compares every item with the first accepted one of its name; that the
two agree is the content of `problemsFrom_eq_nil` and `agrees_of_problemsFrom`.

What is reported about an item depends on the past through `firstKind` alone, and
`firstKind` skips items that are refused. A refused item can thus be taken out of
a walk together with its own problems, and every other report stays as it was.

## Main definitions

* `Source.filings`: The items of a source with the names they go under.
* `Acceptable`: The conditions on a source.
* `reported`: The problems that the analysis reports.

## Theorems

* `firstKind_eq_some_iff`: The item that decides a kind has been accepted.
* `problemsFrom_eq_nil`: Items that agree leave no problems.
* `agrees_of_problemsFrom`: Without problems, the items agree.
* `problemsFrom_of_refused`: A refused item changes no other report.
* `analyze_itemwise`: Acceptance is a condition on the items alone, and the
  problems are reported item by item.
-/

namespace Vitae

/-- The items of a source with the names they go under, in order. -/
def Source.filings (source : Source) : List (String × RawItem) :=
  source.sections.flatMap (fun s => s.items.map (fun raw => (s.name, raw)))

/-- The conditions on a source. -/
structure Acceptable (document : Kind) (load : String → LoadedFile) (source : Source) :
    Prop where
  /-- No section name is blank. -/
  named : ∀ s ∈ source.sections, Text.isBlank s.name = false
  /-- Every reference is well formed, and its file can be used and has its id. -/
  resolved : ∀ one ∈ source.filings, ∃ props, one.2.found load = .ok props
  /-- The props of every item pass the checks on their own. -/
  checked : ∀ one ∈ source.filings, ∀ props, one.2.found load = .ok props →
    ∃ item, props.check = .ok item
  /-- Items under one name are of one kind. -/
  alike : ∀ one ∈ source.filings, ∀ other ∈ source.filings, one.1 = other.1 →
    ∀ a b, one.2.analyzed load = .ok a → other.2.analyzed load = .ok b → a.kind = b.kind
  /-- A cover letter has paragraphs only. -/
  letter : document = .coverLetter → ∀ one ∈ source.filings,
    ∀ a, one.2.analyzed load = .ok a → a.kind = .paragraph

/-- The problems that the analysis reports. -/
def reported : Except (List Problem) Document → List Problem
  | .ok _ => []
  | .error problems => problems

/-- The item that decides the kind of a section has been accepted in its place,
and nothing under its name was before. -/
theorem firstKind_eq_some_iff (document : Kind) (load : String → LoadedFile)
    (before : List Placed) (name : String) (kind : ItemKind) :
    firstKind document load before name = some kind ↔
      ∃ front item back accepted, before = front ++ item :: back ∧ item.name = name ∧
        firstKind document load front name = none ∧
        verdict document name (firstKind document load front name) (item.raw.found load) =
          .ok accepted ∧ accepted.kind = kind := by
  constructor
  · intro h
    rcases List.findSome?_eq_some_iff.mp h with ⟨front, item, back, hsplit, hitem, hfront⟩
    have hnone : firstKind document load front name = none :=
      List.findSome?_eq_none_iff.mpr hfront
    by_cases hname : item.name = name
    · rw [if_pos hname, Placed.kind?, hname] at hitem
      cases hverdict : verdict document name none (item.raw.found load) with
      | error causes => simp only [hverdict, reduceCtorEq] at hitem
      | ok accepted =>
          simp only [hverdict, Option.some.injEq] at hitem
          exact ⟨front, item, back, accepted, hsplit, hname, hnone, hnone ▸ hverdict, hitem⟩
    · simp only [if_neg hname, reduceCtorEq] at hitem
  · rintro ⟨front, item, back, accepted, rfl, rfl, hnone, hverdict, rfl⟩
    rw [hnone] at hverdict
    rw [firstKind_append, hnone, Option.none_or]
    simp only [firstKind, List.findSome?_cons, if_pos, Placed.kind?, hverdict]

theorem mem_filings_iff (source : Source) (name : String) (raw : RawItem) :
    (name, raw) ∈ source.filings ↔ ∃ item ∈ source.placed, item.name = name ∧ item.raw = raw := by
  simp only [Source.filings, Source.placed, List.mem_flatMap, List.mem_map, RawSection.placed,
    List.mem_mapIdx, Prod.mk.injEq]
  constructor
  · rintro ⟨s, hs, other, hother, rfl, rfl⟩
    rcases List.getElem_of_mem hother with ⟨i, hi, rfl⟩
    exact ⟨⟨⟨i + 1, s.name⟩, s.items[i]⟩, ⟨s, hs, i, hi, rfl⟩, rfl, rfl⟩
  · rintro ⟨item, ⟨s, hs, i, hi, rfl⟩, rfl, rfl⟩
    exact ⟨s, hs, s.items[i], List.getElem_mem hi, rfl, rfl⟩

section Walk

variable {document : Kind} {load : String → LoadedFile}

/-- Items that agree leave no problems. Whatever decides the kind of a section is
one of the items in front, so the next one agrees with it. -/
theorem problemsFrom_eq_nil (before items : List Placed)
    (hitems : ∀ item ∈ items, ∃ a, item.raw.analyzed load = .ok a ∧
      (document = .coverLetter → a.kind = .paragraph))
    (halike : ∀ item ∈ before ++ items, ∀ other ∈ before ++ items, item.name = other.name →
      ∀ a b, item.raw.analyzed load = .ok a → other.raw.analyzed load = .ok b →
        a.kind = b.kind) :
    problemsFrom document load before items = [] := by
  induction items generalizing before with
  | nil => rfl
  | cons item rest ih =>
      rcases hitems item List.mem_cons_self with ⟨a, ha, hletter⟩
      have hearlier : ∀ kind, firstKind document load before item.name = some kind →
          kind = a.kind := by
        intro kind hkind
        rcases (firstKind_eq_some_iff ..).mp hkind with
          ⟨front, other, back, b, rfl, hname, _, hverdict, rfl⟩
        have hb := ((verdict_eq_ok_iff ..).mp hverdict).1
        exact halike other (by simp) item (by simp) hname b a hb ha
      have hverdict : verdict document item.name (firstKind document load before item.name)
          (item.raw.found load) = .ok a := (verdict_eq_ok_iff ..).mpr ⟨ha, hletter, hearlier⟩
      rw [problemsFrom, (itemProblems_eq_nil_iff ..).mpr ⟨a, hverdict⟩, List.nil_append]
      refine ih (before ++ [item]) (fun other ho => hitems other (List.mem_cons_of_mem _ ho)) ?_
      simpa only [List.append_assoc, List.singleton_append] using halike

/-- Without problems, every item is accepted and is of the kind that its name is
bound to in the end. -/
theorem agrees_of_problemsFrom (before items : List Placed)
    (h : problemsFrom document load before items = []) :
    ∀ item ∈ items, ∃ a, item.raw.analyzed load = .ok a ∧
      (document = .coverLetter → a.kind = .paragraph) ∧
      firstKind document load (before ++ items) item.name = some a.kind := by
  induction items generalizing before with
  | nil => exact fun _ hitem => absurd hitem List.not_mem_nil
  | cons item rest ih =>
      rw [problemsFrom, List.append_eq_nil_iff] at h
      intro other hother
      rcases List.mem_cons.mp hother with rfl | hrest
      · rcases (itemProblems_eq_nil_iff ..).mp h.1 with ⟨a, ha⟩
        rcases (verdict_eq_ok_iff ..).mp ha with ⟨hanalyzed, hletter, hearlier⟩
        refine ⟨a, hanalyzed, hletter, ?_⟩
        -- The kind is settled with this item at the latest, and later ones leave it.
        rw [← List.singleton_append, ← List.append_assoc, firstKind_append, firstKind_concat]
        rw [show verdict document other.name (firstKind document load before other.name)
          (other.raw.found load) = .ok a from ha]
        cases hfirst : firstKind document load before other.name with
        | none => simp
        | some kind => simp [hearlier kind hfirst]
      · have := ih (before ++ [item]) h.2 other hrest
        simpa only [List.append_assoc, List.singleton_append] using this

theorem problemsFrom_append (before front back : List Placed) :
    problemsFrom document load before (front ++ back) =
      problemsFrom document load before front ++
        problemsFrom document load (before ++ front) back := by
  induction front generalizing before with
  | nil => simp only [List.nil_append, List.append_nil, problemsFrom]
  | cons item rest ih =>
      rw [List.cons_append, problemsFrom, problemsFrom, ih, List.append_assoc, List.append_assoc,
        List.singleton_append]

/-- Two histories with the same kinds lead to the same reports. -/
theorem problemsFrom_congr (before other items : List Placed)
    (h : ∀ name, firstKind document load before name = firstKind document load other name) :
    problemsFrom document load before items = problemsFrom document load other items := by
  induction items generalizing before other with
  | nil => rfl
  | cons item rest ih =>
      rw [problemsFrom, problemsFrom, h item.name]
      congr 1
      refine ih _ _ (fun name => ?_)
      rw [firstKind_append, firstKind_append, h name]

/-- A refused item changes no other report. -/
theorem problemsFrom_of_refused (before : List Placed) (item : Placed) (rest : List Placed)
    (h : itemProblems document item.place (firstKind document load before item.name)
      (item.raw.found load) ≠ []) :
    problemsFrom document load (before ++ [item]) rest =
      problemsFrom document load before rest := by
  refine problemsFrom_congr _ _ _ (fun name => ?_)
  rw [firstKind_concat]
  cases hverdict : verdict document item.name (firstKind document load before item.name)
      (item.raw.found load) with
  | ok a => exact absurd ((itemProblems_eq_nil_iff ..).mpr ⟨a, hverdict⟩) h
  | error causes => rfl

end Walk

/-- The analysis succeeds where its run leaves no problems. -/
theorem analyze_eq_ok_iff (document : Kind) (load : String → LoadedFile) (source : Source)
    (doc : Document) :
    analyze document load source = .ok doc ↔
      (Analysis.run document load source).problems = [] ∧
        doc = ⟨source.personal, (Analysis.run document load source).sections⟩ := by
  unfold analyze
  simp only
  cases (Analysis.run document load source).problems with
  | nil =>
      simp only [List.isEmpty_nil, if_true, Except.ok.injEq, true_and]
      exact eq_comm
  | cons problem rest =>
      simp only [List.isEmpty_cons, Bool.false_eq_true, if_false, reduceCtorEq, false_and]

theorem reported_analyze (document : Kind) (load : String → LoadedFile) (source : Source) :
    reported (analyze document load source) = (Analysis.run document load source).problems := by
  unfold analyze
  simp only
  cases hproblems : (Analysis.run document load source).problems with
  | nil => simp only [List.isEmpty_nil, if_true, reported]
  | cons problem rest => simp only [List.isEmpty_cons, Bool.false_eq_true, if_false, reported]

/-- The run leaves no problems where the source is acceptable. -/
theorem problems_run_eq_nil_iff (document : Kind) (load : String → LoadedFile)
    (source : Source) :
    (Analysis.run document load source).problems = [] ↔ Acceptable document load source := by
  constructor
  · intro h
    have hnamed := (Analysis.named_of_problems_eq_nil h).2
    rw [(Analysis.run_of_named document load source hnamed).1] at h
    have hagrees := agrees_of_problemsFrom [] source.placed h
    refine ⟨hnamed, ?_, ?_, ?_, ?_⟩
    · rintro ⟨name, raw⟩ hone
      rcases (mem_filings_iff ..).mp hone with ⟨item, hitem, rfl, rfl⟩
      rcases hagrees item hitem with ⟨a, ha, _⟩
      cases hfound : item.raw.found load with
      | ok props => exact ⟨props, rfl⟩
      | error problem => simp only [RawItem.analyzed, hfound, analyzedProps, reduceCtorEq] at ha
    · rintro ⟨name, raw⟩ hone props hprops
      rcases (mem_filings_iff ..).mp hone with ⟨item, hitem, rfl, rfl⟩
      rcases hagrees item hitem with ⟨a, ha, _⟩
      rw [RawItem.analyzed, hprops] at ha
      exact ⟨a, ha⟩
    · -- Both items are of the kind that their name is bound to in the end.
      rintro ⟨name, raw⟩ hone ⟨other, raw'⟩ hother hname a b ha hb
      rcases (mem_filings_iff ..).mp hone with ⟨item, hitem, rfl, rfl⟩
      rcases (mem_filings_iff ..).mp hother with ⟨item', hitem', rfl, rfl⟩
      rcases hagrees item hitem with ⟨a', ha', _, hkind⟩
      rcases hagrees item' hitem' with ⟨b', hb', _, hkind'⟩
      rw [show item.name = item'.name from hname, hkind', Option.some.injEq] at hkind
      rw [ha', Except.ok.injEq] at ha
      rw [hb', Except.ok.injEq] at hb
      rw [← ha, ← hb, hkind]
    · rintro hletter ⟨name, raw⟩ hone a ha
      rcases (mem_filings_iff ..).mp hone with ⟨item, hitem, rfl, rfl⟩
      rcases hagrees item hitem with ⟨a', ha', hpar, _⟩
      rw [ha', Except.ok.injEq] at ha
      exact ha ▸ hpar hletter
  · intro h
    rw [(Analysis.run_of_named document load source h.named).1]
    have hmem : ∀ item ∈ source.placed, (item.name, item.raw) ∈ source.filings :=
      fun item hitem => (mem_filings_iff ..).mpr ⟨item, hitem, rfl, rfl⟩
    refine problemsFrom_eq_nil [] source.placed (fun item hitem => ?_) ?_
    · rcases h.resolved _ (hmem item hitem) with ⟨props, hprops⟩
      rcases h.checked _ (hmem item hitem) props hprops with ⟨a, ha⟩
      have hanalyzed : item.raw.analyzed load = .ok a := by
        rw [RawItem.analyzed, hprops]
        exact ha
      exact ⟨a, hanalyzed, fun hd => h.letter hd _ (hmem item hitem) a hanalyzed⟩
    · intro item hitem other hother hname a b ha hb
      exact h.alike _ (hmem item hitem) _ (hmem other hother) hname a b ha hb

/-- The conditions do not look at the order of sections and items. -/
theorem acceptable_of_perm {document : Kind} {load : String → LoadedFile}
    {source other : Source}
    (hnames : (source.sections.map RawSection.name).Perm (other.sections.map RawSection.name))
    (hfilings : source.filings.Perm other.filings) (h : Acceptable document load source) :
    Acceptable document load other := by
  refine ⟨fun s hs => ?_, fun one hone => h.resolved one (hfilings.mem_iff.mpr hone),
    fun one hone => h.checked one (hfilings.mem_iff.mpr hone),
    fun one hone two htwo => h.alike one (hfilings.mem_iff.mpr hone) two
      (hfilings.mem_iff.mpr htwo),
    fun hletter one hone => h.letter hletter one (hfilings.mem_iff.mpr hone)⟩
  rcases List.mem_map.mp (hnames.mem_iff.mpr (List.mem_map_of_mem hs)) with ⟨t, ht, hname⟩
  rw [← hname]
  exact h.named t ht

/-- A source is accepted exactly when its items are, each on its own, when those
under one name are of one kind, and when a cover letter has paragraphs only; the
order of sections and items does not matter. Where all sections have names, what
is reported is put together from one list for each item, and an item that is
refused adds its own list and changes no other. -/
theorem analyze_itemwise (document : Kind) (load : String → LoadedFile) (source : Source) :
    ((∃ doc, analyze document load source = .ok doc) ↔ Acceptable document load source) ∧
    (∀ other : Source,
      (source.sections.map RawSection.name).Perm (other.sections.map RawSection.name) →
      source.filings.Perm other.filings →
      ((∃ doc, analyze document load source = .ok doc) ↔
        ∃ doc, analyze document load other = .ok doc)) ∧
    ((∀ s ∈ source.sections, Text.isBlank s.name = false) →
      reported (analyze document load source) =
          problemsFrom document load [] source.placed ∧
      ∀ before item after, source.placed = before ++ item :: after →
        itemProblems document item.place (firstKind document load before item.name)
          (item.raw.found load) ≠ [] →
        reported (analyze document load source) =
          problemsFrom document load [] before ++
            itemProblems document item.place (firstKind document load before item.name)
              (item.raw.found load) ++
            problemsFrom document load before after) := by
  have haccepted : ∀ source : Source,
      (∃ doc, analyze document load source = .ok doc) ↔ Acceptable document load source := by
    intro source
    rw [← problems_run_eq_nil_iff]
    constructor
    · rintro ⟨doc, hdoc⟩
      exact ((analyze_eq_ok_iff ..).mp hdoc).1
    · exact fun h => ⟨_, (analyze_eq_ok_iff ..).mpr ⟨h, rfl⟩⟩
  refine ⟨haccepted source, fun other hnames hfilings => ?_, fun hnamed => ?_⟩
  · rw [haccepted, haccepted]
    exact ⟨acceptable_of_perm hnames hfilings, acceptable_of_perm hnames.symm hfilings.symm⟩
  · rw [reported_analyze, (Analysis.run_of_named document load source hnamed).1]
    refine ⟨rfl, fun before item after hsplit hrefused => ?_⟩
    rw [hsplit, problemsFrom_append, List.nil_append, problemsFrom,
      problemsFrom_of_refused before item after hrefused, List.append_assoc]

end Vitae
