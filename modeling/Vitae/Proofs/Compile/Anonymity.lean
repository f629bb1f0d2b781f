import Vitae.Proofs.Compile.Output

/-!
# Anonymous Documents

A document that is not to tell who it is about shows one name for everyone, and of the
personal details only the titles. So whatever else is known of the person, in the source or
in the overrides, makes no difference to what can be seen: not to the header, the body or
the footers, not to the title of the file, and not to any byte of it.

The details reach the file by three ways, through the header, through the footers and
through the title, and all of them go through `effectivePersonal`. The look of the sections
depends on the options, but on no override, which is why the options can be exchanged for
others with the same choices (`compose_eq`).

## Main definitions

* `Job.Describes`: The document that a job is about.
* `Store.Holds`: A file with the given contents.
* `Ending.pages?`: The number of pages of the file, if there is one.
* `Disguised`: Two documents that differ only in who they are about, and do not tell it.

## Theorems

* `effectivePersonal_of_anon`: What is left of the personal details.
* `compose_eq`: What the pages depend on.
* `contents_of_completed`: What a compilation that completes leaves at the output.
* `anonymous_eq`: An anonymous document does not depend on who it is about.
-/

namespace Vitae

/-- The document that a job is about, as its source and the item files describe it. -/
def Job.Describes (job : Job) (store : Store) (document : Document) : Prop :=
  ∃ source, readSource store job = .ok source ∧
    analyze job.kind (store.loadItems (itemFolder job.source)) source = .ok document

/-- A path leads to a file with the given contents. -/
def Store.Holds (store : Store) (path : Path) (contents : Bytes) : Prop :=
  ∃ place, store.locate path = .ok place ∧ store.node? place = some (.file contents)

/-- The number of pages of the file, if a compilation has ended with one. -/
def Ending.pages? : Ending → Option Nat
  | .completed _ pages => some pages
  | _ => none

theorem Ending.eq_completed {ending : Ending} {pages : Nat} (h : ending.pages? = some pages) :
    ∃ output, ending = .completed output pages := by
  cases ending with
  | completed output number =>
    cases h
    exact ⟨output, rfl⟩
  | interrupted stage => cases h
  | failed error => cases h
  | crashed words => cases h

/-- Two documents that are to be compiled alike and do not tell who they are about. They
have the same sections, and the titles that are shown are the same; all other details of
the two persons can differ, in the sources and in the overrides. -/
structure Disguised (job other : Job) (document otherDocument : Document) : Prop where
  kind : other.kind = job.kind
  sections : otherDocument.sections = document.sections
  style : other.options.style = job.options.style
  content : other.options.content = job.options.content
  color : other.options.color = job.options.color
  anon : job.options.content.anon = true
  titles : (other.options.personal.overlay otherDocument.personal).titles =
    (job.options.personal.overlay document.personal).titles

/-- What is left of the personal details if they are not to be told. -/
theorem effectivePersonal_of_anon {options : Options} (h : options.content.anon = true)
    (source : Personal) :
    effectivePersonal source options =
      { Personal.blank with
        name := some anonymousName
        titles := (options.personal.overlay source).titles } := by
  rw [effectivePersonal, if_pos h]

section Look

variable (page : PageConfig) (options : Options) (personal : Personal)

/-- The look of a footer depends on no override. -/
theorem footersFrom_override (label : String) (total number : Nat) (pages : List Page) :
    Composer.footersFrom ⟨page, { options with personal := personal }⟩ label total number pages =
      Composer.footersFrom ⟨page, options⟩ label total number pages := by
  induction pages generalizing number with
  | nil => rfl
  | cons first rest ih =>
    rw [Composer.footersFrom, Composer.footersFrom, ih]
    rfl

/-- The look of a section depends on no override. -/
theorem sectionOf_override (kind : Kind) :
    Composer.sectionOf ⟨page, { options with personal := personal }⟩ kind =
      Composer.sectionOf ⟨page, options⟩ kind := by
  cases kind <;> rfl

/-- The pages depend on the sections, the details that are shown, and the choices that are
no overrides. -/
theorem compose_eq (kind : Kind) {document otherDocument : Document}
    (hsections : otherDocument.sections = document.sections)
    (hpersonal : effectivePersonal otherDocument.personal { options with personal := personal } =
      effectivePersonal document.personal options) :
    compose otherDocument kind { options with personal := personal } page =
      compose document kind options page := by
  have helements : Composer.elements ⟨page, { options with personal := personal }⟩ kind
      otherDocument = Composer.elements ⟨page, options⟩ kind document := by
    unfold Composer.elements
    simp only [hsections, hpersonal, sectionOf_override]
    rfl
  unfold compose
  simp only [helements, hpersonal, Composer.withFooters, footersFrom_override]

end Look

namespace Disguised

variable {job other : Job} {document otherDocument : Document}

theorem personal (h : Disguised job other document otherDocument) :
    effectivePersonal otherDocument.personal other.options =
      effectivePersonal document.personal job.options := by
  have hanon : other.options.content.anon = true := by
    rw [h.content]
    exact h.anon
  rw [effectivePersonal_of_anon h.anon, effectivePersonal_of_anon hanon, h.titles]

/-- The choices of the two jobs differ in the overrides only. -/
theorem options (h : Disguised job other document otherDocument) :
    other.options = ⟨job.options.style, job.options.content, job.options.color,
      other.options.personal⟩ := by
  rw [← h.style, ← h.content, ← h.color]

theorem compose (h : Disguised job other document otherDocument) (page : PageConfig) :
    Vitae.compose otherDocument other.kind other.options page =
      Vitae.compose document job.kind job.options page := by
  have hpersonal := h.personal
  rw [h.options] at hpersonal
  rw [h.kind, h.options]
  exact compose_eq page job.options other.options.personal job.kind h.sections hpersonal

theorem title (h : Disguised job other document otherDocument) :
    documentTitle otherDocument other = documentTitle document job := by
  unfold documentTitle
  rw [h.personal, h.kind]

end Disguised

/-- What a compilation that completes leaves at the output is the file of the document that
its job is about. -/
theorem contents_of_completed {page : PageConfig} {job : Job} {context : Context}
    {session : Session} {document : Document} {pages : Nat}
    (hdocument : job.Describes session.store document)
    (h : (renderDocument page job context session).1.pages? = some pages) :
    pages = (compose document job.kind job.options page).length ∧
      (renderDocument page job context session).2.store.Holds job.output
        (Pdf.encode (compose document job.kind job.options page) (documentTitle document job)
          page) := by
  obtain ⟨source, hsource, hanalyze⟩ := hdocument
  have hall := renderDocument_allOrNothing page job context session
  obtain ⟨output, hcompleted⟩ := Ending.eq_completed h
  simp only [hcompleted] at hall
  obtain ⟨-, _, _, place, hsource', hanalyze', hpages, hreplaced⟩ := hall
  cases hsource.symm.trans hsource'
  cases hanalyze.symm.trans hanalyze'
  exact ⟨hpages, place, hreplaced.locate, hreplaced.contents⟩

/-- An anonymous document does not depend on who it is about. Its pages are the same for
everyone, and so is its title and every byte of the file that is put at the output,
whatever the files, the requests to stop and the progress of two compilations are. -/
theorem anonymous_eq (page : PageConfig) {job other : Job} {document otherDocument : Document}
    (h : Disguised job other document otherDocument) :
    compose otherDocument other.kind other.options page =
        compose document job.kind job.options page ∧
      documentTitle otherDocument other = documentTitle document job ∧
      Pdf.encode (compose otherDocument other.kind other.options page)
          (documentTitle otherDocument other) page =
        Pdf.encode (compose document job.kind job.options page) (documentTitle document job)
          page ∧
      ∀ context session otherContext otherSession,
        job.Describes session.store document →
        other.Describes otherSession.store otherDocument →
        ∀ pages otherPages,
          (renderDocument page job context session).1.pages? = some pages →
          (renderDocument page other otherContext otherSession).1.pages? = some otherPages →
          otherPages = pages ∧ ∃ contents,
            (renderDocument page job context session).2.store.Holds job.output contents ∧
            (renderDocument page other otherContext otherSession).2.store.Holds other.output
              contents := by
  have hpages := h.compose page
  have htitle := h.title
  refine ⟨hpages, htitle, by rw [hpages, htitle], ?_⟩
  intro context session otherContext otherSession hdocument hother pages otherPages
    hcompleted hcompleted'
  obtain ⟨hcount, hholds⟩ := contents_of_completed hdocument hcompleted
  obtain ⟨hcount', hholds'⟩ := contents_of_completed hother hcompleted'
  rw [hpages, htitle] at hholds'
  rw [hpages] at hcount'
  exact ⟨hcount'.trans hcount.symm, _, hholds, hholds'⟩

/-- A session that begins with one source, which tells who the person is. -/
def sessionAbout (personal : String) : Session :=
  let source := "\x7b\"personal\":" ++ personal ++ "\x7d"
  .start ⟨[([], .folder), ([Utf8.encode "cv.json"], .file (Utf8.encode source))], [], [],
    fun _ => none⟩

def janeSession : Session :=
  sessionAbout "\x7b\"name\":\"Jane\",\"titles\":[\"Engineer\"]\x7d"

def johnSession : Session :=
  sessionAbout "\x7b\"titles\":[\"Engineer\"],\"email\":\"john@example.org\"\x7d"

def jane : Document :=
  ⟨{ Personal.blank with name := some "Jane", titles := ["Engineer"] }, []⟩

def john : Document :=
  ⟨{ Personal.blank with titles := ["Engineer"], email := some "john@example.org" }, []⟩

/-- A job for a curriculum vitae that does not tell who it is about. -/
def anonymousJob (overrides : Personal) : Job where
  kind := .cv
  source := Path.ofText "cv.json"
  output := Path.ofText "cv.pdf"
  options :=
    { Options.standard with
      content := { ContentFlags.standard with anon := true }
      personal := overrides }

/-- The second person has a name from the overrides, and no longer a mail address. -/
def johnJob : Job :=
  anonymousJob { Personal.blank with name := some "John", email := some "" }

/-- No one can tell the document about one person from that about the other. -/
theorem anonymous_jane_john :
    Disguised (anonymousJob .blank) johnJob jane john ∧
      ∃ contents,
        (renderDocument .standard (anonymousJob .blank) ⟨.cv, false, false⟩
          janeSession).2.store.Holds (Path.ofText "cv.pdf") contents ∧
        (renderDocument .standard johnJob ⟨.cv, false, false⟩
          johnSession).2.store.Holds (Path.ofText "cv.pdf") contents := by
  have hdisguised : Disguised (anonymousJob .blank) johnJob jane john :=
    ⟨rfl, rfl, rfl, rfl, rfl, rfl, rfl⟩
  have hjane : (anonymousJob .blank).Describes janeSession.store jane :=
    ⟨⟨jane.personal, []⟩, by rfl, by rfl⟩
  have hjohn : johnJob.Describes johnSession.store john :=
    ⟨⟨john.personal, []⟩, by rfl, by rfl⟩
  obtain ⟨-, -, -, hruns⟩ := anonymous_eq .standard hdisguised
  exact ⟨hdisguised,
    (hruns _ _ _ _ hjane hjohn 1 1 (by decide +kernel) (by decide +kernel)).2⟩

end Vitae
