import Vitae.Proofs.Compile.Anonymity
import Vitae.Proofs.Layout.Footers

/-!
# Blank Names

A name that holds nothing but spaces is no name to the header, which leaves it out as it
leaves out blank titles and contacts. So what is laid out is the same as without a name, page
by page (`compose_nameless`).

The two other places where the name shows look at it more closely. A footer drops the label
only if it is empty, and the title of the file has the name in front as soon as there is one.
So a name of spaces shows in every footer, and any blank name shows in the title, which begins
with a dash then (`blankName_shows`).

## Main definitions

* `Document.nameless`, `Options.nameless`: A document and options without a name.
* `BlankName`: A document that shows a name of which nothing can be seen.

## Theorems

* `effectivePersonal_nameless`: What is shown without the name.
* `header_nameless`: A blank name has no place in the header.
* `compose_nameless`: What is laid out does not depend on a blank name.
* `blankName_shows`: Where a blank name makes a difference.
* `not_forall_nameless`: The footers and the title of a document about a space.
-/

namespace Vitae

/-- Details without the name. -/
def Personal.nameless (personal : Personal) : Personal :=
  { personal with name := none }

/-- A document that does not tell a name. -/
def Document.nameless (document : Document) : Document :=
  { document with personal := document.personal.nameless }

/-- Options with no name among the overrides. -/
def Options.nameless (options : Options) : Options :=
  { options with personal := options.personal.nameless }

/-- A job with no name among its overrides. -/
def Job.nameless (job : Job) : Job :=
  { job with options := job.options.nameless }

/-- The name that is shown is there and blank. -/
def BlankName (document : Document) (options : Options) (name : String) : Prop :=
  (effectivePersonal document.personal options).name = some name ∧ Text.isBlank name = true

instance (document : Document) (options : Options) (name : String) :
    Decidable (BlankName document options name) :=
  inferInstanceAs (Decidable (_ ∧ _))

section Nameless

variable {document : Document} {options : Options} {name : String} (page : PageConfig)

/-- The name that stands in for all others is not blank. -/
theorem BlankName.anon (h : BlankName document options name) : options.content.anon = false := by
  obtain ⟨hname, hblank⟩ := h
  by_contra hanon
  rw [effectivePersonal_of_anon ((Bool.not_eq_false _).mp hanon)] at hname
  cases hname
  exact absurd hblank (by decide)

/-- Without the name everything else is shown as before. -/
theorem effectivePersonal_nameless (h : options.content.anon = false) :
    effectivePersonal document.nameless.personal options.nameless =
      (effectivePersonal document.personal options).nameless := by
  have hnot : ¬options.content.anon = true := (Bool.not_eq_true _).mpr h
  unfold effectivePersonal
  rw [if_neg hnot]
  exact if_neg hnot

/-- A blank name has no place in the header. -/
theorem header_nameless (options : Options) {personal : Personal}
    (hname : personal.name = some name) (hblank : Text.isBlank name = true) :
    Composer.header ⟨page, options.nameless⟩ personal.nameless =
      Composer.header ⟨page, options⟩ personal := by
  unfold Composer.header
  simp only [hname, if_pos hblank]
  rfl

/-- What is laid out does not depend on a blank name. -/
theorem compose_nameless (h : BlankName document options name) (kind : Kind) :
    compose document.nameless kind (options.nameless.withFooter false) page =
      compose document kind (options.withFooter false) page := by
  have hheader := header_nameless page options h.1 h.2
  have helements : Composer.elements ⟨page, options.nameless⟩ kind document.nameless =
      Composer.elements ⟨page, options⟩ kind document := by
    -- Behind the header are the sections, and their look depends on no override.
    unfold Composer.elements
    simp only [effectivePersonal_nameless h.anon, hheader]
    rw [Options.nameless, sectionOf_override]
    rfl
  exact congrArg (flow page) helements

/-- Footers are put on the pages that are laid out without them. -/
theorem compose_withFooter_true (document : Document) (kind : Kind) (options : Options) :
    compose document kind (options.withFooter true) page =
      Composer.withFooters ⟨page, options.withFooter true⟩
        ((effectivePersonal document.personal options).name.getD "")
        (compose document kind (options.withFooter false) page) := by
  have hon : (options.withFooter true).style.footer = true := rfl
  have hoff : ¬(options.withFooter false).style.footer = true := Bool.false_ne_true
  unfold compose
  rw [if_pos hon, if_neg hoff, elements_withFooter, elements_withFooter]
  rfl

theorem label_nameless (h : BlankName document options name) :
    (effectivePersonal document.nameless.personal options.nameless).name.getD "" = "" := by
  rw [effectivePersonal_nameless h.anon]
  rfl

end Nameless

/-- Footers with a label differ from those without one. -/
theorem Footed.ne_of_label {label : String} {pages footed bare : List Page}
    (hlabel : label ≠ "") (hpages : pages ≠ []) (hfooted : Footed label pages footed)
    (hbare : Footed "" pages bare) : bare ≠ footed := by
  intro heq
  have hfirst := List.length_pos_of_ne_nil hpages
  obtain ⟨footer, hfooter, htext⟩ := hfooted.last 0 hfirst
  obtain ⟨plain, hplain, hcount⟩ := hbare.last 0 hfirst
  rw [heq, hfooter, Option.some.injEq, List.append_cancel_left_eq, List.singleton_inj] at hplain
  -- The two footers count the same page, so nothing is left for the label.
  rw [← hplain, htext, if_neg hlabel, if_pos rfl, String.empty_append] at hcount
  have hlength := congrArg String.length hcount
  simp only [String.length_append] at hlength
  have hmark : " · ".length = 3 := by decide
  omega

/-- Where a blank name makes a difference: in the footers if it is not empty, and always in
the title. The pages that are laid out are the same with it and without a name, each footer
stands at the end of its page, and it shows the name unless that is empty. -/
theorem blankName_shows (document : Document) (kind : Kind) (options : Options)
    (page : PageConfig) {name : String} (h : BlankName document options name) :
    let laid := compose document kind (options.withFooter false) page
    compose document.nameless kind (options.nameless.withFooter false) page = laid ∧
      Footed name laid (compose document kind (options.withFooter true) page) ∧
      Footed "" laid (compose document.nameless kind (options.nameless.withFooter true) page) ∧
      (compose document.nameless kind options.nameless page = compose document kind options page ↔
        options.style.footer = false ∨ name = "") ∧
      ∀ job : Job, job.options = options →
        documentTitle document job = name ++ " - " ++ job.kind.title ∧
        documentTitle document.nameless job.nameless = job.kind.title ∧
        documentTitle document.nameless job.nameless ≠ documentTitle document job := by
  intro laid
  have hlaid := compose_nameless page h kind
  obtain ⟨hoccupied, -, hfooted, hchoice⟩ := footed_compose document kind options page
  obtain ⟨-, -, hbare, hbareChoice⟩ :=
    footed_compose document.nameless kind options.nameless page
  rw [h.1] at hfooted
  rw [label_nameless h, hlaid] at hbare
  refine ⟨hlaid, hfooted, hbare, ?_, ?_⟩
  · rw [hchoice, hbareChoice, hlaid]
    have hstyle : options.nameless.style.footer = options.style.footer := rfl
    rw [hstyle]
    cases options.style.footer with
    | false =>
      rw [if_neg Bool.false_ne_true, if_neg Bool.false_ne_true]
      exact iff_of_true rfl (.inl rfl)
    | true =>
      rw [if_pos rfl, if_pos rfl]
      constructor
      · intro heq
        refine .inr (by_contra fun hname => ?_)
        exact Footed.ne_of_label hname hoccupied.ne_nil hfooted hbare heq
      · rintro (hoff | rfl)
        · cases hoff
        · -- The footers have the same label, and their look depends on no override.
          rw [compose_withFooter_true, compose_withFooter_true, label_nameless h, hlaid, h.1]
          exact footersFrom_override page (options.withFooter true) _ _ _ _ _
  · rintro job rfl
    have htitle : documentTitle document job = name ++ " - " ++ job.kind.title := by
      rw [documentTitle, h.1]
    have hplain : documentTitle document.nameless job.nameless = job.kind.title := by
      have hnone :
          (effectivePersonal document.nameless.personal job.nameless.options).name = none := by
        rw [Job.nameless, effectivePersonal_nameless h.anon]
        rfl
      rw [documentTitle, hnone]
      rfl
    refine ⟨htitle, hplain, fun heq => ?_⟩
    rw [htitle, hplain] at heq
    have hlength := congrArg String.length heq
    simp only [String.length_append] at hlength
    have hdash : " - ".length = 3 := by decide
    omega

/-- A document about someone whose name is a space. -/
def spaceDocument : Document :=
  ⟨{ Personal.blank with name := some " " }, []⟩

/-- The name of a space is not seen in the header, but in the footer and in the title. -/
theorem blankName_shows_space :
    BlankName spaceDocument .standard " " ∧
      compose spaceDocument.nameless .cv Options.standard.nameless .standard ≠
        compose spaceDocument .cv .standard .standard ∧
      documentTitle spaceDocument ⟨.cv, ⟨[]⟩, ⟨[]⟩, .standard⟩ = "  - Curriculum Vitae" := by
  have hblank : BlankName spaceDocument .standard " " := by decide
  obtain ⟨-, -, -, hpages, htitle⟩ :=
    blankName_shows spaceDocument .cv .standard .standard hblank
  refine ⟨hblank, fun heq => ?_, (htitle ⟨.cv, ⟨[]⟩, ⟨[]⟩, .standard⟩ rfl).1⟩
  rcases hpages.mp heq with hoff | hname
  · exact absurd hoff (by decide)
  · exact absurd hname (by decide)

/-- A blank name does not count as none everywhere. That of a space makes a difference in the
footers, and also in the title. -/
theorem not_forall_nameless :
    (¬∀ (document : Document) (kind : Kind) (options : Options) (page : PageConfig) (name : String),
      BlankName document options name →
      compose document.nameless kind options.nameless page = compose document kind options page) ∧
    ¬∀ (document : Document) (job : Job) (name : String), BlankName document job.options name →
      documentTitle document.nameless job.nameless = documentTitle document job := by
  have hblank : BlankName spaceDocument .standard " " := by decide
  constructor
  · intro h
    have htexts := congrArg (fun pages : List Page => pages.flatten.map Run.text)
      (h spaceDocument .cv .standard .standard " " hblank)
    exact absurd htexts (by decide)
  · intro h
    exact absurd (h spaceDocument ⟨.cv, ⟨[]⟩, ⟨[]⟩, .standard⟩ " " hblank) (by decide)

end Vitae
