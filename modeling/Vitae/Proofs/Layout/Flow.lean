import Vitae.Layout.Compose

/-!
# What Flows Arrives

Flowing decides on which page a row stands and how high, and on nothing else. A
run without its height, its `spot`, is the same before and after, so the pages
in order hold exactly the spots of the elements in order.

A page break moves the page being filled to the full ones, which changes where
runs are kept and not which or in what order. `Flow.runs` reads both places as one
list, so that a break is invisible (`runs_advance`) and one more element is one
more piece at the end (`spots_put`).

Footers come last. `withoutFooters` takes them off again, and what remains is what
the flow left (`withoutFooters_compose`).

## Main definitions

* `Run.spot`, `Element.spots`: Runs without their height.
* `Flow.runs`: The runs placed so far.
* `withoutFooters`: Pages without the footer on each.

## Theorems

* `Flow.runs_advance`: A page break changes no run.
* `Flow.spots_put`: One more element adds its own runs at the end.
* `spots_flow`: The pages hold what flowed.
* `Composer.flatMap_separated`: What stands between things adds nothing to them.
* `withoutFooters_compose`: Below its footers, a document is what flowed.
-/

namespace Vitae

/-- A run without its height: its size, and the text where it stands from left
to right. -/
def Run.spot (run : Run) : Float32 × Cell :=
  (run.size, ⟨run.x, run.face, run.color, run.text⟩)

/-- What the runs of an element will be, whatever their height. -/
def Element.spots : Element → List (Float32 × Cell)
  | .gap _ => []
  | .row size cells => cells.map (fun cell => (size, cell))

namespace Flow

/-- The runs placed so far, in order. -/
def runs (state : Flow) : List Run :=
  state.full.flatten ++ state.current

/-- A page break changes no run and not their order. -/
theorem runs_advance (page : PageConfig) (size : Float32) (state : Flow) :
    (advance page size state).runs = state.runs := by
  unfold advance
  simp only
  split
  · simp only [runs, List.flatten_append, List.flatten_cons, List.flatten_nil, List.append_nil]
  · rfl

/-- One more element adds its own runs at the end. -/
theorem spots_put (page : PageConfig) (state : Flow) (element : Element) :
    (put page state element).runs.map Run.spot =
      state.runs.map Run.spot ++ element.spots := by
  cases element with
  | gap fraction => simp only [put, runs, Element.spots, List.append_nil]
  | row size cells =>
      -- The cells go behind the runs that the page break has left alone.
      have hput : (put page state (.row size cells)).runs =
          (advance page size state).runs ++
            cells.map (runAt (advance page size state).cursor size) := by
        simp only [put, runs, List.append_assoc]
      rw [hput, runs_advance, List.map_append, List.map_map]
      rfl

theorem flatten_pages (state : Flow) : state.pages.flatten = state.runs := by
  unfold pages
  split
  · simp only [runs, List.flatten_append, List.flatten_cons, List.flatten_nil, List.append_nil]
  · rename_i hnone
    -- A page is left out only if nothing is on it.
    have hcurrent : state.current = [] :=
      Classical.byContradiction (fun hne => hnone (Or.inl hne))
    rw [runs, hcurrent, List.append_nil]

theorem spots_foldl_put (page : PageConfig) (elements : List Element) (state : Flow) :
    (elements.foldl (put page) state).runs.map Run.spot =
      state.runs.map Run.spot ++ elements.flatMap Element.spots := by
  induction elements generalizing state with
  | nil => simp only [List.foldl_nil, List.flatMap_nil, List.append_nil]
  | cons element rest ih =>
      rw [List.foldl_cons, ih, spots_put, List.append_assoc, List.flatMap_cons]

end Flow

/-- The pages hold what flowed, in order. -/
theorem spots_flow (page : PageConfig) (elements : List Element) :
    (flow page elements).flatten.map Run.spot = elements.flatMap Element.spots := by
  rw [flow, Flow.flatten_pages, Flow.spots_foldl_put]
  rfl

/-! ### Things with something between them -/

namespace Composer

variable {α : Type} {between : List Element} {one : α → List Element}

theorem separated_cons (x y : α) (rest : List α) :
    separated between one (x :: y :: rest) =
      one x ++ between ++ separated between one (y :: rest) :=
  rfl

/-- What stands between things adds nothing that it does not have itself. -/
theorem flatMap_separated {β : Type} {f : Element → List β} (h : between.flatMap f = [])
    (xs : List α) : (separated between one xs).flatMap f = xs.flatMap fun x => (one x).flatMap f := by
  induction xs with
  | nil => rfl
  | cons x rest ih =>
      cases rest with
      | nil => rw [separated, List.flatMap_singleton]
      | cons y more =>
          rw [separated_cons, List.flatMap_append, List.flatMap_append, h, ih, List.append_nil]
          rfl

theorem map_separated (f : Element → Element) (xs : List α) :
    (separated between one xs).map f = separated (between.map f) (fun x => (one x).map f) xs := by
  induction xs with
  | nil => rfl
  | cons x rest ih =>
      cases rest with
      | nil => rfl
      | cons y more => rw [separated_cons, separated_cons, List.map_append, List.map_append, ih]

end Composer

/-! ### Footers -/

/-- Pages without the footer on each, if there is one. -/
def withoutFooters (options : Options) (pages : List Page) : List Page :=
  if options.style.footer then pages.map List.dropLast else pages

theorem dropLast_footersFrom (c : Composer) (label : String) (total number : Nat)
    (pages : List Page) :
    (c.footersFrom label total number pages).map List.dropLast = pages := by
  induction pages generalizing number with
  | nil => rfl
  | cons page rest ih =>
      rw [Composer.footersFrom, List.map_cons, List.dropLast_concat, ih]

/-- Below its footers, a document is what flowed. -/
theorem withoutFooters_compose (document : Document) (kind : Kind) (options : Options)
    (page : PageConfig) :
    withoutFooters options (compose document kind options page) =
      flow page (Composer.elements ⟨page, options⟩ kind document) := by
  unfold withoutFooters compose
  by_cases hfooter : options.style.footer = true
  · simp only [if_pos hfooter, Composer.withFooters, dropLast_footersFrom]
  · simp only [if_neg hfooter]

end Vitae
