import Vitae.Proofs.Analysis.Acceptance

/-!
# Nothing Is Lost

What an analyzed document owes to its source. Sections of one name become one,
references are replaced by what they lead to, and items with problems are left
out; `Renders` says that, once there are no problems, none of this costs an item,
adds one or puts one in the wrong place.

The argument compares two lists. The walk keeps a list of accepted items with
their names, from which the sections are filed; the source has a list of raw items
with their names. Without problems the two agree entry by entry (`keptFrom_eq`),
and everything else is read off that: the names, the items under a name, and their
number.

## Main definitions

* `Source.itemsNamed`: The raw items of all sections of a name.
* `Renders`: A document has what a source says, and nothing else.

## Theorems

* `keptFrom_eq`: Without problems, the accepted items are the raw ones.
* `kind_of_mem_keptFrom`: Accepted items under one name are of one kind.
* `eraseDups_names_placed`: Only sections with items bring a name in.
* `renders_of_analyze`: An analyzed document renders its source.
-/

namespace Vitae

/-- The raw items of all sections of a name, in order. -/
def Source.itemsNamed (source : Source) (name : String) : List RawItem :=
  (source.sections.filter (fun s => s.name == name)).flatMap RawSection.items

/-- A document has what a source says, and nothing else. -/
structure Renders (document : Kind) (load : String → LoadedFile) (source : Source)
    (doc : Document) : Prop where
  personal : doc.personal = source.personal
  /-- No two sections share a name. -/
  distinct : (doc.sections.map Section.name).Nodup
  named : ∀ s ∈ doc.sections, Text.isBlank s.name = false
  nonempty : ∀ s ∈ doc.sections, s.items ≠ []
  /-- Every item is of the kind of its section. -/
  kinds : ∀ s ∈ doc.sections, ∀ item ∈ s.items, item.kind = s.kind
  /-- A cover letter has paragraphs only. -/
  letter : document = .coverLetter → ∀ s ∈ doc.sections, s.kind = .paragraph
  /-- Sections come in the order in which their names first come up in sections
  that have items. -/
  order : doc.sections.map Section.name =
    ((source.sections.filter (fun s => !s.items.isEmpty)).map RawSection.name).eraseDups
  /-- A section has one item for every raw item of its name, in source order. -/
  items : ∀ s ∈ doc.sections,
    s.items.map Except.ok = (source.itemsNamed s.name).map (RawItem.analyzed load)
  /-- There are as many items as the source has. -/
  count : (doc.sections.flatMap Section.items).length =
    (source.sections.flatMap RawSection.items).length

section Walk

variable {document : Kind} {load : String → LoadedFile}

/-- Without problems, the accepted items are the raw ones, each analyzed. -/
theorem keptFrom_eq (before items : List Placed)
    (h : problemsFrom document load before items = []) :
    (keptFrom document load before items).map (fun one => (one.1, Except.ok one.2)) =
      items.map (fun item => (item.name, item.raw.analyzed load)) := by
  induction items generalizing before with
  | nil => rfl
  | cons item rest ih =>
      rw [problemsFrom, List.append_eq_nil_iff] at h
      rcases (itemProblems_eq_nil_iff ..).mp h.1 with ⟨a, ha⟩
      have hverdict : verdict document item.name (firstKind document load before item.name)
          (item.raw.found load) = .ok a := ha
      have hanalyzed : item.raw.analyzed load = .ok a := ((verdict_eq_ok_iff ..).mp ha).1
      rw [keptFrom, hverdict, List.map_cons, List.map_cons, ih _ h.2, hanalyzed]

/-- Accepted items are of the kind that their name is bound to in the end. -/
theorem kind_of_mem_keptFrom (before items : List Placed) (one : String × Item)
    (h : one ∈ keptFrom document load before items) :
    firstKind document load (before ++ items) one.1 = some one.2.kind ∧
      (document = .coverLetter → one.2.kind = .paragraph) := by
  induction items generalizing before with
  | nil => exact absurd h List.not_mem_nil
  | cons item rest ih =>
      rw [keptFrom] at h
      have hrest : one ∈ keptFrom document load (before ++ [item]) rest →
          firstKind document load (before ++ item :: rest) one.1 = some one.2.kind ∧
            (document = .coverLetter → one.2.kind = .paragraph) := by
        intro hmem
        simpa only [List.append_assoc, List.singleton_append] using ih (before ++ [item]) hmem
      cases hverdict : verdict document item.name (firstKind document load before item.name)
          (item.raw.found load) with
      | error causes =>
          rw [hverdict] at h
          exact hrest h
      | ok a =>
          rw [hverdict] at h
          rcases List.mem_cons.mp h with rfl | hmem
          · rcases (verdict_eq_ok_iff ..).mp hverdict with ⟨_, hletter, hearlier⟩
            refine ⟨?_, hletter⟩
            -- The kind is settled with this item at the latest.
            rw [← List.singleton_append, ← List.append_assoc, firstKind_append,
              firstKind_concat, hverdict]
            cases hfirst : firstKind document load before item.name with
            | none => simp
            | some kind => simp [hearlier kind hfirst]
          · exact hrest hmem

end Walk

/-- A name that comes up several times in a row counts once. -/
theorem eraseDups_replicate_append (n : Nat) (name : String) (names : List String) :
    (List.replicate (n + 1) name ++ names).eraseDups =
      name :: names.eraseDups.filter (fun other => !other == name) := by
  rw [List.replicate_succ, List.cons_append, List.eraseDups_cons, List.filter_append,
    List.filter_replicate]
  simp only [beq_self_eq_true, Bool.not_true, Bool.false_eq_true, if_false, List.nil_append,
    eraseDups_filter]

theorem names_placed (s : RawSection) :
    s.placed.map Placed.name = List.replicate s.items.length s.name := by
  refine List.eq_replicate_iff.mpr ⟨by simp [RawSection.placed], fun name hname => ?_⟩
  simp only [RawSection.placed, List.mem_map, List.mem_mapIdx] at hname
  rcases hname with ⟨item, ⟨i, hi, rfl⟩, rfl⟩
  rfl

theorem raws_placed (s : RawSection) : s.placed.map Placed.raw = s.items := by
  refine List.ext_getElem (by simp [RawSection.placed]) (fun i hi hi' => ?_)
  simp only [RawSection.placed, List.getElem_map, List.getElem_mapIdx]

/-- Only sections with items bring a name in. -/
theorem eraseDups_names_placed (sections : List RawSection) :
    ((sections.flatMap RawSection.placed).map Placed.name).eraseDups =
      ((sections.filter (fun s => !s.items.isEmpty)).map RawSection.name).eraseDups := by
  induction sections with
  | nil => rfl
  | cons s rest ih =>
      rw [List.flatMap_cons, List.map_append, names_placed]
      cases hitems : s.items with
      | nil => simp [hitems, ih]
      | cons raw more =>
          rw [List.length_cons, eraseDups_replicate_append, ih,
            List.filter_cons_of_pos (by simp [hitems]), List.map_cons, List.eraseDups_cons,
            eraseDups_filter]

/-- The items that go under a name, with and without their places. -/
theorem raws_named (sections : List RawSection) (name : String) :
    (((sections.flatMap RawSection.placed).filter (fun item => item.name == name)).map
        Placed.raw) =
      (sections.filter (fun s => s.name == name)).flatMap RawSection.items := by
  induction sections with
  | nil => rfl
  | cons s rest ih =>
      rw [List.flatMap_cons, List.filter_append, List.map_append, ih]
      have hnames : ∀ item ∈ s.placed, item.name = s.name := by
        intro item hitem
        have := List.mem_map_of_mem (f := Placed.name) hitem
        rw [names_placed] at this
        exact List.eq_of_mem_replicate this
      by_cases hs : s.name = name
      · rw [List.filter_eq_self.mpr (fun item hitem => by simp [hnames item hitem, hs]),
          raws_placed, List.filter_cons_of_pos (by simp [hs]), List.flatMap_cons]
      · rw [List.filter_eq_nil_iff.mpr (fun item hitem => by simp [hnames item hitem, hs]),
          List.filter_cons_of_neg (by simp [hs]), List.map_nil, List.nil_append]

theorem length_placed (sections : List RawSection) :
    (sections.flatMap RawSection.placed).length =
      (sections.flatMap RawSection.items).length := by
  have hraws : (sections.flatMap RawSection.placed).map Placed.raw =
      sections.flatMap RawSection.items := by
    rw [List.map_flatMap]
    simp only [raws_placed]
  rw [← hraws, List.length_map]

/-- Every name of a placed item is that of a section. -/
theorem mem_names_placed {source : Source} {name : String}
    (h : name ∈ source.placed.map Placed.name) : ∃ s ∈ source.sections, s.name = name := by
  rcases List.mem_map.mp h with ⟨item, hitem, rfl⟩
  rcases List.mem_flatMap.mp hitem with ⟨s, hs, hplaced⟩
  have hname := List.mem_map_of_mem (f := Placed.name) hplaced
  rw [names_placed] at hname
  exact ⟨s, hs, (List.eq_of_mem_replicate hname).symm⟩

/-- An analyzed document has what its source says, item for item, and nothing
else. -/
theorem renders_of_analyze (document : Kind) (load : String → LoadedFile) (source : Source)
    (doc : Document) (h : analyze document load source = .ok doc) :
    Renders document load source doc := by
  rcases (analyze_eq_ok_iff ..).mp h with ⟨hnone, rfl⟩
  have hnamed := (Analysis.named_of_problems_eq_nil hnone).2
  rcases Analysis.run_of_named document load source hnamed with ⟨hproblems, hsections⟩
  rw [hproblems] at hnone
  -- From here on only what was kept matters, not how the walk came by it.
  have hkept := keptFrom_eq [] source.placed hnone
  have hkinds := fun one (hone : one ∈ keptFrom document load [] source.placed) =>
    kind_of_mem_keptFrom [] source.placed one hone
  rw [hsections]
  generalize keptFrom document load [] source.placed = kept at hkept hkinds
  -- The accepted items have the names and the contents of the raw ones.
  have hnames : kept.map Prod.fst = source.placed.map Placed.name := by
    simpa only [List.map_map, Function.comp_def] using congrArg (List.map Prod.fst) hkept
  have hunder : ∀ name, (Analysis.under name kept).map Except.ok =
      (source.itemsNamed name).map (RawItem.analyzed load) := by
    intro name
    have hfilter := congrArg (fun l => (l.filter (fun p => p.1 == name)).map Prod.snd) hkept
    simp only [List.filter_map, List.map_map, Function.comp_def] at hfilter
    rw [Source.itemsNamed, ← raws_named, Analysis.under, List.map_map, List.map_map]
    exact hfilter
  exact {
    personal := rfl
    distinct := Analysis.nodup_names_filed kept
    named := by
      intro s hs
      have hname := List.mem_map_of_mem (f := Section.name) hs
      rw [Analysis.names_filed, List.mem_eraseDups, hnames] at hname
      rcases mem_names_placed hname with ⟨raw, hraw, hraws⟩
      rw [← hraws]
      exact hnamed raw hraw
    nonempty := by
      intro s hs hnil
      rcases Analysis.exists_kind_of_mem_filed hs with ⟨item, hitem, _⟩
      rw [hnil] at hitem
      exact List.not_mem_nil hitem
    kinds := by
      -- The first item of the section and this one go under the same name.
      intro s hs item hitem
      rcases Analysis.exists_kind_of_mem_filed hs with ⟨first, hfirst, hkind⟩
      have hthis := (hkinds _ (Analysis.mem_of_mem_filed hs hitem)).1
      have hthat := (hkinds _ (Analysis.mem_of_mem_filed hs hfirst)).1
      rw [hthat, Option.some.injEq] at hthis
      rw [← hthis, hkind]
    letter := by
      intro hletter s hs
      rcases Analysis.exists_kind_of_mem_filed hs with ⟨first, hfirst, hkind⟩
      rw [← hkind]
      exact (hkinds _ (Analysis.mem_of_mem_filed hs hfirst)).2 hletter
    order := by
      rw [Analysis.names_filed, hnames]
      exact eraseDups_names_placed source.sections
    items := by
      intro s hs
      rw [Analysis.items_of_mem_filed hs]
      exact hunder s.name
    count := by
      have hlength := congrArg List.length hkept
      rw [List.length_map, List.length_map] at hlength
      rw [Analysis.length_filed, hlength]
      exact length_placed source.sections }

/-- A result that shows once errors are forgotten. -/
theorem eq_ok_of_toOption {α ε : Type} {result : Except ε α} {a : α}
    (h : result.toOption = some a) : result = .ok a := by
  cases result with
  | error e => simp [Except.toOption] at h
  | ok b => simpa [Except.toOption] using h

/-- A skill, as it is written. -/
def sampleSkill : Props where
  members := Json.Members.ofPairs [("category", .text "Languages"), ("content", .text "Lean")]
  repeatedKeys := []
  repeatedLabels := []
  ascending := Json.Members.ascending_ofPairs _

/-- A paragraph that invokes a label. -/
def sampleParagraph : Props where
  members := Json.Members.ofPairs
    [("labels", .object [("who", .text "Ada")]),
      ("paragraph", .text "Dear \x7b\x7bwho\x7d\x7d")]
  repeatedKeys := []
  repeatedLabels := []
  ascending := Json.Members.ascending_ofPairs _

/-- Sections of which two share a name and one is empty, with a reference. -/
def sampleSource : Source where
  personal := .blank
  sections :=
    [⟨"About", [.inline sampleParagraph]⟩, ⟨"Empty", []⟩, ⟨"Skills", [.inline sampleSkill]⟩,
      ⟨"About", [.reference "texts::greeting", .inline sampleParagraph]⟩]

/-- One item file, and nothing else. -/
def sampleFiles (file : String) : LoadedFile :=
  if file = "texts" then .ok [("greeting", sampleParagraph)]
  else .error (.missing (.ofText file))

/-- What comes of it: the sections of one name in one, the empty one gone. -/
def sampleDocument : Document where
  personal := .blank
  sections :=
    [⟨"About", .paragraph, List.replicate 3 (.paragraph "Dear Ada")⟩,
      ⟨"Skills", .skills, [.skill "Languages" "Lean"]⟩]

theorem renders_of_analyze_sample :
    analyze .cv sampleFiles sampleSource = .ok sampleDocument ∧
      Renders .cv sampleFiles sampleSource sampleDocument := by
  have h : analyze .cv sampleFiles sampleSource = .ok sampleDocument :=
    eq_ok_of_toOption (by decide +kernel)
  exact ⟨h, renders_of_analyze _ _ _ _ h⟩

end Vitae
