import Vitae.Proofs.Analysis.Completeness
import Vitae.Proofs.Layout.Flow
import Vitae.Proofs.Number.Descent

/-!
# The Height of What Flows

A row goes to the next page when it would get below the text area, unless nothing is on
the page yet. Behind the first row of a document there always is something: a page is
only begun for a row, and the row is then put on it. So all rows but the first stay in
the text area, however many there are (`Underway.put`).

The first row stands where the gaps above it have left the cursor, and nothing stops
them. Whether a document stays in the text area is therefore decided by the height of
its first row (`flow_height`). In a CV the first row is a heading, if the header has not
been it, with one gap above it at most. A letter can begin with any number of blank
paragraphs, which have no rows but are separated by gaps, and they can bring its first
row below the text area and off the page (`not_forall_inside`).

Heights are floats and the number of steps down is not bounded, so the argument needs
that the cursor remains a number and goes down with every step, which is what a
`Descent` provides.

## Main definitions

* `Element.Usual`: An element as documents have them.
* `PageConfig.Roomy`: A page on which such elements have room.
* `firstBaseline`: The height of the first row.
* `Flow.Underway`: A flow that has placed something on the page being filled.

## Theorems

* `usual_elements`: The elements of a document.
* `Flow.Underway.put`: Once something has been placed, all stays in the text area.
* `Flow.runs_foldl_blank`: Only the first row can be outside.
* `flow_height`: What flows stays in the text area if the first row does.
* `compose_height`: The heights of a document on the standard page.
* `not_forall_inside`: A letter that does not stay in the text area.
-/

namespace Vitae

open Binary32 (Between Descent)

/-- The sizes of the rows of a document. -/
def PageConfig.sizes (page : PageConfig) : List Float32 :=
  [page.name, page.heading, page.body, page.body * 0.9]

/-- The gaps of a document, as fractions of a line. -/
def gapFractions : List Float32 := [0.4, 0.8]

/-- An element as documents have them: a gap or a row that is not empty, of a usual
measure. -/
def Element.Usual (page : PageConfig) : Element → Prop
  | .gap fraction => fraction ∈ gapFractions
  | .row size cells => size ∈ page.sizes ∧ cells ≠ []

section Usual

variable {c : Composer}

theorem usual_indented (text : String) (face : Face) (color : Rgb) (indent : Float32)
    (mark : List Cell) : ∀ e ∈ c.indented text face color indent mark, e.Usual c.page := by
  have hbody : c.page.body ∈ c.page.sizes := by simp [PageConfig.sizes]
  intro e he
  unfold Composer.indented at he
  split at he
  · exact absurd he List.not_mem_nil
  · rcases List.mem_cons.mp he with rfl | he
    · exact ⟨hbody, List.append_ne_nil_of_right_ne_nil _ (List.cons_ne_nil _ _)⟩
    · obtain ⟨line, -, rfl⟩ := List.mem_map.mp he
      exact ⟨hbody, List.cons_ne_nil _ _⟩

theorem usual_split (left : String) (leftFace : Face) (right : String) (color : Rgb) :
    (c.split left leftFace right color).Usual c.page :=
  ⟨by simp [PageConfig.sizes], List.cons_ne_nil _ _⟩

theorem usual_item (item : Item) : ∀ e ∈ c.item item, e.Usual c.page := by
  intro e he
  cases item with
  | paragraph text => exact usual_indented _ _ _ _ _ e he
  | skill category content => exact usual_indented _ _ _ _ _ e he
  | entry title subtitle btag ttag details =>
    simp only [Composer.item, List.mem_cons, List.mem_flatMap] at he
    rcases he with rfl | rfl | ⟨detail, -, he⟩
    · exact usual_split _ _ _ _
    · exact usual_split _ _ _ _
    · exact usual_indented _ _ _ _ _ e he
  | honor title subtitle ltag rtag =>
    rw [Composer.item, List.mem_singleton] at he
    rw [he]
    exact usual_split _ _ _ _

theorem usual_paragraph (item : Item) : ∀ e ∈ c.paragraph item, e.Usual c.page := by
  intro e he
  cases item with
  | paragraph text => exact usual_indented _ _ _ _ _ e he
  | skill category content => exact absurd he List.not_mem_nil
  | entry title subtitle btag ttag details => exact absurd he List.not_mem_nil
  | honor title subtitle ltag rtag => exact absurd he List.not_mem_nil

theorem usual_separated {α : Type} {between : List Element} {one : α → List Element}
    (hbetween : ∀ e ∈ between, e.Usual c.page) (hone : ∀ x, ∀ e ∈ one x, e.Usual c.page)
    (xs : List α) : ∀ e ∈ Composer.separated between one xs, e.Usual c.page := by
  induction xs with
  | nil => exact fun e he => absurd he List.not_mem_nil
  | cons x rest ih =>
    cases rest with
    | nil => exact hone x
    | cons y more =>
      intro e he
      rw [Composer.separated] at he
      · rcases List.mem_append.mp he with he | he
        · rcases List.mem_append.mp he with he | he
          · exact hone x e he
          · exact hbetween e he
        · exact ih e he
      · exact List.cons_ne_nil _ _

theorem usual_gap {fraction : Float32} (h : fraction ∈ gapFractions) :
    ∀ e ∈ [Element.gap fraction], e.Usual c.page := by
  intro e he
  rw [List.mem_singleton.mp he]
  exact h

theorem usual_sectionOf (kind : Kind) (s : Section) : ∀ e ∈ c.sectionOf kind s, e.Usual c.page := by
  cases kind with
  | cv =>
    have hheading : (c.line (Text.uppercase s.name) c.page.heading .bold c.palette.accent).Usual
        c.page := ⟨by simp [PageConfig.sizes], List.cons_ne_nil _ _⟩
    refine List.forall_mem_cons.mpr ⟨hheading, usual_separated ?_ usual_item s.items⟩
    split
    · exact usual_gap (by simp [gapFractions])
    · exact fun e he => absurd he List.not_mem_nil
  | coverLetter =>
    refine usual_separated (usual_gap ?_) usual_paragraph s.items
    split <;> simp [gapFractions]

/-- The header is a list of rows. -/
theorem usual_header (personal : Personal) :
    ∀ e ∈ c.header personal, ∃ size cells, e = .row size cells ∧ size ∈ c.page.sizes ∧ cells ≠ [] := by
  have hcentered : ∀ (text : String) (size : Float32) (face : Face) (color : Rgb),
      size ∈ c.page.sizes → ∃ size' cells, c.centered text size face color = .row size' cells ∧
        size' ∈ c.page.sizes ∧ cells ≠ [] :=
    fun text size face color h => ⟨size, _, rfl, h, List.cons_ne_nil _ _⟩
  have hif : ∀ (p : Prop) [Decidable p] (row e : Element),
      e ∈ (if p then [] else [row]) → e = row := by
    intro p _ row e he
    split at he
    · exact absurd he List.not_mem_nil
    · exact List.mem_singleton.mp he
  intro e he
  rw [Composer.header] at he
  rcases List.mem_append.mp he with he | he
  · rcases List.mem_append.mp he with he | he
    · split at he
      · rw [hif _ _ _ he]
        exact hcentered _ _ _ _ (by simp [PageConfig.sizes])
      · exact absurd he List.not_mem_nil
    · rw [hif _ _ _ he]
      exact hcentered _ _ _ _ (by simp [PageConfig.sizes])
  · rw [hif _ _ _ he]
    exact hcentered _ _ _ _ (by simp [PageConfig.sizes])

theorem usual_elements (kind : Kind) (document : Document) :
    ∀ e ∈ c.elements kind document, e.Usual c.page := by
  have hgap : (0.8 : Float32) ∈ gapFractions := by simp [gapFractions]
  have hsections := usual_separated (usual_gap (c := c) hgap) (usual_sectionOf kind)
    document.sections
  unfold Composer.elements
  simp only
  split
  · intro e he
    rcases List.mem_append.mp he with he | he
    · obtain ⟨size, cells, rfl, hrow⟩ := usual_header _ e he
      exact hrow
    · split at he
      · exact absurd he List.not_mem_nil
      · rcases List.mem_cons.mp he with rfl | he
        · exact hgap
        · exact hsections e he
  · exact hsections

end Usual

/-- A page on which the elements of documents have room, and a height below which no flow
ever gets. -/
structure PageConfig.Roomy (page : PageConfig) (lowest : Float32) : Prop where
  bottom : page.bottom.isFinite = true
  top : Between lowest page.top page.top
  rows : ∀ size ∈ page.sizes, Descent lowest page.top (page.lineHeight size)
  gaps : ∀ fraction ∈ gapFractions, Descent lowest page.top (page.lineHeight page.body * fraction)
  /-- A row has room on a page of its own. -/
  fresh : ∀ size ∈ page.sizes, page.bottom ≤ page.top - page.lineHeight size
  /-- So has a heading with a gap above it. -/
  heading : page.bottom ≤ page.top - page.lineHeight page.body * 0.8 - page.lineHeight page.heading

/-- A height in the text area. -/
def PageConfig.Inside (page : PageConfig) (y : Float32) : Prop :=
  Between page.bottom page.top y

/-- The height of the first row, if there is one. -/
def firstBaseline (page : PageConfig) (cursor : Float32) : List Element → Option Float32
  | [] => none
  | .gap fraction :: rest =>
    firstBaseline page (cursor - page.lineHeight page.body * fraction) rest
  | .row size _ :: _ => some (cursor - page.lineHeight size)

namespace Flow

variable {page : PageConfig} {lowest : Float32}

/-- A flow that has placed something on the page being filled. -/
structure Underway (page : PageConfig) (lowest : Float32) (state : Flow) : Prop where
  cursor : Between lowest page.top state.cursor
  current : state.current ≠ []

theorem mem_runs_put {state : Flow} {run : Run} (h : run ∈ state.runs) (element : Element) :
    run ∈ (put page state element).runs := by
  cases element with
  | gap fraction => exact h
  | row size cells =>
    rw [← runs_advance page size] at h
    rcases List.mem_append.mp h with h | h
    · exact List.mem_append_left _ h
    · exact List.mem_append_right _ (List.mem_append_left _ h)

theorem mem_runs_foldl {state : Flow} {run : Run} (h : run ∈ state.runs) (elements : List Element) :
    run ∈ (elements.foldl (put page) state).runs := by
  induction elements generalizing state with
  | nil => exact h
  | cons element rest ih => exact ih (mem_runs_put h element)

/-- The runs of a row are at its baseline, and the others were there before. -/
theorem runs_put_row (page : PageConfig) (size : Float32) (cells : List Cell) (state : Flow) :
    (put page state (.row size cells)).runs =
      state.runs ++ cells.map (runAt (advance page size state).cursor size) := by
  rw [← runs_advance page size state]
  simp only [put, runs, List.append_assoc]

/-- Once something has been placed, a row goes where there is room for it. -/
theorem Underway.advance (hpage : page.Roomy lowest) {size : Float32} (hsize : size ∈ page.sizes)
    {state : Flow} (h : Underway page lowest state) :
    Between lowest page.top (advance page size state).cursor ∧
      page.Inside (advance page size state).cursor := by
  unfold Flow.advance
  have hdown := ((hpage.rows size hsize).between h.cursor).1
  have hfresh := ((hpage.rows size hsize).between hpage.top).1
  simp only
  split
  · exact ⟨hfresh, hfresh.isFinite, hpage.fresh size hsize, hfresh.le_high⟩
  · rename_i hroom
    have hroom : ¬state.cursor - page.lineHeight size < page.bottom :=
      fun hlt => hroom ⟨hlt, h.current⟩
    exact ⟨hdown, hdown.isFinite,
      (Binary32.not_lt_iff hdown.isFinite hpage.bottom).mp hroom, hdown.le_high⟩

/-- One more element keeps a flow underway and puts nothing outside of the text area. -/
theorem Underway.put (hpage : page.Roomy lowest) {element : Element} (he : element.Usual page)
    {state : Flow} (h : Underway page lowest state) :
    Underway page lowest (put page state element) ∧
      ∀ run ∈ (Flow.put page state element).runs, run ∈ state.runs ∨ page.Inside run.y := by
  cases element with
  | gap fraction =>
    exact ⟨⟨((hpage.gaps fraction he).between h.cursor).1, h.current⟩, fun run hrun => .inl hrun⟩
  | row size cells =>
    obtain ⟨hsize, hcells⟩ := he
    obtain ⟨hcursor, hinside⟩ := h.advance hpage hsize
    refine ⟨⟨hcursor, ?_⟩, fun run hrun => ?_⟩
    · refine List.append_ne_nil_of_right_ne_nil _ ?_
      rwa [Ne, List.map_eq_nil_iff]
    · rw [runs_put_row] at hrun
      refine (List.mem_append.mp hrun).imp_right fun hrun => ?_
      obtain ⟨cell, -, rfl⟩ := List.mem_map.mp hrun
      exact hinside

theorem Underway.foldl (hpage : page.Roomy lowest) {elements : List Element}
    (he : ∀ e ∈ elements, e.Usual page) {state : Flow} (h : Underway page lowest state) :
    ∀ run ∈ (elements.foldl (Flow.put page) state).runs, run ∈ state.runs ∨ page.Inside run.y := by
  induction elements generalizing state with
  | nil => exact fun run hrun => .inl hrun
  | cons element rest ih =>
    obtain ⟨hnext, hruns⟩ := h.put hpage (he element List.mem_cons_self)
    intro run hrun
    rcases ih (fun e hmem => he e (List.mem_cons_of_mem _ hmem)) hnext run hrun with hrun | hrun
    · exact hruns run hrun
    · exact .inr hrun

/-- Only the first row can be outside of the text area, and only below it. -/
theorem runs_foldl_blank (hpage : page.Roomy lowest) {elements : List Element}
    (he : ∀ e ∈ elements, e.Usual page) {cursor : Float32} (hcursor : Between lowest page.top cursor) :
    match firstBaseline page cursor elements with
    | none => (elements.foldl (Flow.put page) ⟨[], [], cursor⟩).runs = []
    | some y => Between lowest page.top y ∧
        (∃ run ∈ (elements.foldl (Flow.put page) ⟨[], [], cursor⟩).runs, run.y = y) ∧
        ∀ run ∈ (elements.foldl (Flow.put page) ⟨[], [], cursor⟩).runs,
          run.y = y ∨ page.Inside run.y := by
  induction elements generalizing cursor with
  | nil => rfl
  | cons element rest ih =>
    have hrest := fun e hmem => he e (List.mem_cons_of_mem element hmem)
    cases element with
    | gap fraction =>
      have hgap := hpage.gaps fraction (he _ List.mem_cons_self)
      exact ih hrest (hgap.between hcursor).1
    | row size cells =>
      obtain ⟨hsize, hcells⟩ := he _ List.mem_cons_self
      have hdown := ((hpage.rows size hsize).between hcursor).1
      obtain ⟨cell, more, rfl⟩ := List.exists_cons_of_ne_nil hcells
      -- With nothing placed so far, the row stays on the page.
      have hput : Flow.put page ⟨[], [], cursor⟩ (.row size (cell :: more)) =
          ⟨[], (cell :: more).map (runAt (cursor - page.lineHeight size) size),
            cursor - page.lineHeight size⟩ := by
        have hstay : ¬(cursor - page.lineHeight size < page.bottom ∧ ([] : Page) ≠ []) :=
          fun h => h.2 rfl
        simp only [Flow.put, Flow.advance, if_neg hstay, List.nil_append]
      have hunderway : Underway page lowest
          ⟨[], (cell :: more).map (runAt (cursor - page.lineHeight size) size),
            cursor - page.lineHeight size⟩ :=
        ⟨hdown, List.cons_ne_nil _ _⟩
      rw [firstBaseline, List.foldl_cons, hput]
      refine ⟨hdown, ⟨runAt _ size cell, mem_runs_foldl List.mem_cons_self rest, rfl⟩,
        fun run hrun => ?_⟩
      refine (hunderway.foldl hpage hrest run hrun).imp_left fun hrun => ?_
      obtain ⟨placed, -, rfl⟩ := List.mem_map.mp hrun
      rfl

end Flow

section Heights

variable {page : PageConfig} {lowest : Float32}

/-- What flows stays in the text area if the first row does, and never gets above it. -/
theorem flow_height (hpage : page.Roomy lowest) {elements : List Element}
    (he : ∀ e ∈ elements, e.Usual page) :
    (∀ run ∈ (flow page elements).flatten, run.y.isFinite = true ∧ run.y ≤ page.top) ∧
      ((∀ run ∈ (flow page elements).flatten, page.Inside run.y) ↔
        ∀ y ∈ firstBaseline page page.top elements, page.bottom ≤ y) := by
  have hruns := Flow.runs_foldl_blank hpage he hpage.top
  rw [flow, Flow.flatten_pages, Flow.start]
  split at hruns
  · rename_i hnone
    rw [hruns, hnone]
    exact ⟨fun run hrun => absurd hrun List.not_mem_nil, fun _ y hy => absurd hy (Option.not_mem_none y),
      fun _ run hrun => absurd hrun List.not_mem_nil⟩
  · rename_i y hsome
    obtain ⟨hy, ⟨first, hfirst, hheight⟩, hall⟩ := hruns
    rw [hsome]
    refine ⟨fun run hrun => ?_, fun hinside z hz => ?_, fun hbottom run hrun => ?_⟩
    · rcases hall run hrun with heq | hinside
      · rw [heq]
        exact ⟨hy.isFinite, hy.le_high⟩
      · exact ⟨hinside.isFinite, hinside.le_high⟩
    · rw [← Option.mem_some_iff.mp hz, ← hheight]
      exact (hinside first hfirst).low_le
    · rcases hall run hrun with heq | hinside
      · rw [heq]
        exact ⟨hy.isFinite, hbottom y rfl, hy.le_high⟩
      · exact hinside

theorem bottom_le_of_row (hpage : page.Roomy lowest) {size : Float32} (hsize : size ∈ page.sizes)
    (cells : List Cell) (rest : List Element) :
    ∀ y ∈ firstBaseline page page.top (.row size cells :: rest), page.bottom ≤ y := by
  intro y hy
  rw [← Option.mem_some_iff.mp hy]
  exact hpage.fresh size hsize

/-- A header that shows anything is the first row, and there is no gap above it. -/
theorem bottom_le_of_header {c : Composer} (hpage : c.page.Roomy lowest) {kind : Kind}
    {document : Document} (hheader : c.options.style.header = true)
    (hshown : c.header (effectivePersonal document.personal c.options) ≠ []) :
    ∀ y ∈ firstBaseline c.page c.page.top (c.elements kind document), c.page.bottom ≤ y := by
  obtain ⟨e, more, heq⟩ := List.exists_cons_of_ne_nil hshown
  obtain ⟨size, cells, rfl, hsize, -⟩ := usual_header _ e (heq ▸ List.mem_cons_self)
  simp only [Composer.elements, if_pos hheader, heq, List.cons_append]
  exact bottom_le_of_row hpage hsize _ _

/-- The heading of the first section is the first row of the sections of a CV. -/
theorem separated_cvSection (c : Composer) (between : List Element) (s : Section)
    (rest : List Section) :
    ∃ cells more, Composer.separated between c.cvSection (s :: rest) =
      .row c.page.heading cells :: more := by
  cases rest with
  | nil => exact ⟨_, _, rfl⟩
  | cons t others => exact ⟨_, _, rfl⟩

/-- In a CV there is one gap at most above the first row. -/
theorem bottom_le_of_cv {c : Composer} (hpage : c.page.Roomy lowest) (document : Document) :
    ∀ y ∈ firstBaseline c.page c.page.top (c.elements .cv document), c.page.bottom ≤ y := by
  have hheading : c.page.heading ∈ c.page.sizes := by simp [PageConfig.sizes]
  by_cases hheader : c.options.style.header = true
  · by_cases hshown : c.header (effectivePersonal document.personal c.options) = []
    · cases hsections : document.sections with
      | nil =>
        simp only [Composer.elements, if_pos hheader, hshown, hsections, List.isEmpty_nil, if_true,
          List.nil_append]
        exact fun y hy => absurd hy (Option.not_mem_none y)
      | cons s rest =>
        obtain ⟨cells, more, heq⟩ := separated_cvSection c [.gap 0.8] s rest
        simp only [Composer.elements, if_pos hheader, hshown, hsections, Composer.sectionOf, heq,
          List.isEmpty_cons, if_neg Bool.false_ne_true, List.nil_append]
        intro y hy
        rw [← Option.mem_some_iff.mp hy]
        exact hpage.heading
    · exact bottom_le_of_header hpage hheader hshown
  · simp only [Composer.elements, if_neg hheader]
    cases hsections : document.sections with
    | nil => exact fun y hy => absurd hy (Option.not_mem_none y)
    | cons s rest =>
      obtain ⟨cells, more, heq⟩ := separated_cvSection c [.gap 0.8] s rest
      simp only [Composer.sectionOf, heq]
      exact bottom_le_of_row hpage hheading _ _

theorem roomy_standard : PageConfig.standard.Roomy (-1073741824) where
  bottom := by decide +kernel
  top := by decide +kernel
  rows := by decide +kernel
  gaps := by decide +kernel
  fresh := by decide +kernel
  heading := by decide +kernel

/-- The text of a document stays below the upper margin, and it stays above the footer if
its first row does. Only gaps above it can bring the first row down so far. In a CV, and
below a header that shows anything, there are not enough of them. -/
theorem compose_height (document : Document) (kind : Kind) (options : Options) :
    let page := PageConfig.standard
    let c : Composer := ⟨page, options⟩
    let body := (withoutFooters options (compose document kind options page)).flatten
    (∀ run ∈ body, run.y.isFinite = true ∧ run.y ≤ page.height - page.margin) ∧
      ((∀ run ∈ body, page.bottom ≤ run.y ∧ run.y ≤ page.height - page.margin) ↔
        ∀ y ∈ firstBaseline page page.top (c.elements kind document), page.bottom ≤ y) ∧
      (kind = .cv ∨ (options.style.header = true ∧
          c.header (effectivePersonal document.personal options) ≠ []) →
        ∀ run ∈ body, page.bottom ≤ run.y ∧ run.y ≤ page.height - page.margin) := by
  intro page c body
  have hbody : body = (flow page (c.elements kind document)).flatten := by
    rw [← withoutFooters_compose]
  obtain ⟨htop, hiff⟩ := flow_height roomy_standard (usual_elements (c := c) kind document)
  rw [hbody]
  have hinside : (∀ run ∈ (flow page (c.elements kind document)).flatten, page.Inside run.y) ↔
      ∀ run ∈ (flow page (c.elements kind document)).flatten,
        page.bottom ≤ run.y ∧ run.y ≤ page.height - page.margin :=
    ⟨fun h run hrun => ⟨(h run hrun).low_le, (h run hrun).le_high⟩,
      fun h run hrun => ⟨(htop run hrun).1, (h run hrun).1, (h run hrun).2⟩⟩
  refine ⟨htop, hinside.symm.trans hiff, fun hfew => hinside.mp (hiff.mpr ?_)⟩
  rcases hfew with rfl | ⟨hheader, hshown⟩
  · exact bottom_le_of_cv (c := c) roomy_standard document
  · exact bottom_le_of_header (c := c) roomy_standard hheader hshown

/-- A paragraph as it is written. -/
def writtenParagraph (text : String) : RawItem :=
  .inline {
    members := Json.Members.ofPairs [("paragraph", .text text)]
    repeatedKeys := []
    repeatedLabels := []
    ascending := Json.Members.ascending_ofPairs _ }

/-- A letter that begins with seventy blank paragraphs. -/
def sunkenSource : Source where
  personal := .blank
  sections := [⟨"Letter", List.replicate 70 (writtenParagraph " ") ++ [writtenParagraph "Body"]⟩]

/-- What comes of it. -/
def sunkenDocument : Document where
  personal := .blank
  sections := [⟨"Letter", .paragraph, List.replicate 70 (.paragraph " ") ++ [.paragraph "Body"]⟩]

def withoutFooter : Options :=
  { Options.standard with style := { StyleFlags.standard with footer := false } }

/-- Not every document that is accepted stays in the text area. -/
theorem not_forall_inside :
    ¬∀ (kind : Kind) (load : String → LoadedFile) (source : Source) (document : Document)
      (options : Options), analyze kind load source = .ok document →
      ∀ run ∈ (withoutFooters options (compose document kind options .standard)).flatten,
        PageConfig.standard.bottom ≤ run.y ∧
          run.y ≤ PageConfig.standard.height - PageConfig.standard.margin := by
  intro h
  have haccepted : analyze .coverLetter (fun file => .error (.missing (.ofText file))) sunkenSource =
      .ok sunkenDocument :=
    eq_ok_of_toOption (by decide +kernel)
  have hbelow : ∃ run ∈ (withoutFooters withoutFooter
      (compose sunkenDocument .coverLetter withoutFooter .standard)).flatten,
      ¬PageConfig.standard.bottom ≤ run.y := by
    decide +kernel
  obtain ⟨run, hrun, hlow⟩ := hbelow
  exact hlow (h .coverLetter _ sunkenSource sunkenDocument withoutFooter haccepted run hrun).1

end Heights

end Vitae
