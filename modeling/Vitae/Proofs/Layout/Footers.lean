import Vitae.Proofs.Layout.Flow

/-!
# Pages and Their Footers

How many pages a document has is settled by the flow. A page is only left for the next
one when something is on it, and the last one is only kept when something is on it or
when it is the only one. So there is always a page, and no page is blank unless the
document is, however many rows and gaps there are and in whatever order they come
(`Flow.NoneBlank.put`).

Footers are put on the pages when their number is known. They take part in nothing else:
each is one run at the end of its page, and what is in front of it is what is there when
footers are switched off.

## Main definitions

* `Options.withFooter`: Options with the footer switched on or off.
* `Occupied`: Pages none of which is blank, except for an only one.
* `Footed`: Pages with a footer on each.
* `Flow.NoneBlank`: A flow that has left no page blank.

## Theorems

* `Flow.NoneBlank.put`: One more element leaves no page blank.
* `occupied_flow`: The pages that a list of elements fills.
* `getElem?_footersFrom`, `text_footer`: The footer of each page.
* `footed_compose`: The pages of a document with and without footers.
-/

namespace Vitae

/-- Options with the footer switched on or off. -/
def Options.withFooter (options : Options) (footer : Bool) : Options :=
  { options with style := { options.style with footer := footer } }

/-- Pages none of which is blank, except for an only one. There is at least one. -/
structure Occupied (pages : List Page) : Prop where
  ne_nil : pages ≠ []
  page_ne_nil : 1 < pages.length → ∀ page ∈ pages, page ≠ []

/-- Pages with a footer on each, which counts them behind a label, if there is one. -/
structure Footed (label : String) (pages footed : List Page) : Prop where
  length : footed.length = pages.length
  last : ∀ i, ∀ h : i < pages.length, ∃ footer : Run,
    footed[i]? = some (pages[i] ++ [footer]) ∧
      footer.text = (if label = "" then "" else label ++ " · ") ++
        ("Page " ++ toString (i + 1) ++ " of " ++ toString pages.length)

namespace Flow

/-- A flow that has left no page blank. -/
def NoneBlank (state : Flow) : Prop :=
  ∀ page ∈ state.full, page ≠ []

variable {page : PageConfig} {state : Flow}

/-- A page is left only if something is on it. -/
theorem NoneBlank.advance (h : NoneBlank state) (size : Float32) :
    NoneBlank (advance page size state) := by
  unfold Flow.advance
  simp only
  split
  · rename_i hbreak
    intro p hp
    rcases List.mem_append.mp hp with hp | hp
    · exact h p hp
    · rw [List.mem_singleton.mp hp]
      exact hbreak.2
  · exact h

/-- One more element leaves no page blank. -/
theorem NoneBlank.put (h : NoneBlank state) (element : Element) :
    NoneBlank (put page state element) := by
  cases element with
  | gap fraction => exact h
  | row size cells => exact h.advance size

theorem NoneBlank.foldl (h : NoneBlank state) (elements : List Element) :
    NoneBlank (elements.foldl (Flow.put page) state) := by
  induction elements generalizing state with
  | nil => exact h
  | cons element rest ih => exact ih (h.put element)

theorem NoneBlank.occupied_pages (h : NoneBlank state) : Occupied state.pages := by
  unfold pages
  split
  · rename_i hlast
    refine ⟨List.append_ne_nil_of_right_ne_nil _ (List.cons_ne_nil _ _), fun hmore p hp => ?_⟩
    rcases List.mem_append.mp hp with hp | hp
    · exact h p hp
    · -- The page being filled is blank only if it is the only one.
      rw [List.mem_singleton.mp hp]
      refine hlast.resolve_right fun hnone => ?_
      rw [hnone] at hmore
      exact Nat.lt_irrefl 1 hmore
  · rename_i hlast
    exact ⟨fun hnone => hlast (.inr hnone), fun _ => h⟩

end Flow

/-- The pages that a list of elements fills: at least one, and no blank one among more. -/
theorem occupied_flow (page : PageConfig) (elements : List Element) :
    Occupied (flow page elements) := by
  have hstart : Flow.NoneBlank (Flow.start page) := fun p hp => absurd hp List.not_mem_nil
  exact (hstart.foldl elements).occupied_pages

section Footers

variable (c : Composer) (label : String)

theorem length_footersFrom (total number : Nat) (pages : List Page) :
    (c.footersFrom label total number pages).length = pages.length := by
  induction pages generalizing number with
  | nil => rfl
  | cons page rest ih => rw [Composer.footersFrom, List.length_cons, ih, List.length_cons]

/-- A page gets the footer with its number. -/
theorem getElem?_footersFrom (total number : Nat) (pages : List Page) (i : Nat) :
    (c.footersFrom label total number pages)[i]? =
      pages[i]?.map (· ++ [c.footer label (number + i) total]) := by
  induction pages generalizing number i with
  | nil => rfl
  | cons page rest ih =>
    cases i with
    | zero => rfl
    | succ i =>
      rw [Composer.footersFrom, List.getElem?_cons_succ, List.getElem?_cons_succ, ih,
        Nat.add_assoc, Nat.add_comm 1 i]

theorem text_footer (number total : Nat) :
    (c.footer label number total).text = (if label = "" then "" else label ++ " · ") ++
      ("Page " ++ toString number ++ " of " ++ toString total) := by
  simp only [Composer.footer, Composer.footerText, String.isEmpty_iff]
  split
  · rw [String.empty_append]
  · rfl

theorem footed_withFooters (pages : List Page) :
    Footed label pages (c.withFooters label pages) where
  length := length_footersFrom c label _ _ pages
  last i h := by
    refine ⟨c.footer label (i + 1) pages.length, ?_, text_footer c label _ _⟩
    rw [Composer.withFooters, getElem?_footersFrom, List.getElem?_eq_getElem h, Nat.add_comm 1 i]
    rfl

end Footers

/-- Nothing that flows depends on whether there are footers. -/
theorem elements_withFooter (page : PageConfig) (options : Options) (footer : Bool) (kind : Kind)
    (document : Document) :
    Composer.elements ⟨page, options.withFooter footer⟩ kind document =
      Composer.elements ⟨page, options⟩ kind document :=
  rfl

/-- A document has at least one page, and none of several is blank. With the footer off
the pages hold what was laid out and nothing else. With the footer on they are the same
pages with one more run at the end of each, which counts them behind the name. -/
theorem footed_compose (document : Document) (kind : Kind) (options : Options)
    (page : PageConfig) :
    let pages := compose document kind (options.withFooter false) page
    let footed := compose document kind (options.withFooter true) page
    let label := (effectivePersonal document.personal options).name.getD ""
    Occupied pages ∧ pages = flow page (Composer.elements ⟨page, options⟩ kind document) ∧
      Footed label pages footed ∧
      compose document kind options page = if options.style.footer then footed else pages := by
  intro pages footed label
  have hpages : pages = flow page (Composer.elements ⟨page, options⟩ kind document) :=
    congrArg (flow page) (elements_withFooter page options false kind document)
  refine ⟨hpages ▸ occupied_flow page _, hpages, footed_withFooters _ label pages, ?_⟩
  -- The options are those with the footer set to what it is.
  have hset : compose document kind options page =
      compose document kind (options.withFooter options.style.footer) page :=
    rfl
  rw [hset]
  cases options.style.footer <;> rfl

end Vitae
