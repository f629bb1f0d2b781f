import Vitae.Compile.Backend
import Vitae.Proofs.Files.Growth

/-!
# What a Compilation Leaves Behind

A compilation either puts the whole file in its place or changes no file at all. It
may be asked to stop or be refused something at any point, and the only trace that
this can leave are folders on the way to the output. No draft is left either way.

Every stage but the last leaves the files alone, so the property of the last stage is
handed up from stage to stage, each of which adds what it knows about the contents.

## Main definitions

* `AllOrNothing`: What a compilation may do to the files.

## Theorems

* `allOrNothing_writeStage`: The stage that writes.
* `allOrNothing_checkpoint`: Asking whether to stop changes no files.
* `renderDocument_allOrNothing`: What a compilation leaves, by the way it ends.
-/

namespace Vitae

/-- What a compilation may do to the files it begins with: put a file in place of the
output, of which `wanted` tells the contents and the number of pages, or make folders on
the way to it. -/
def AllOrNothing (job : Job) (before : Store) (wanted : Bytes → Nat → Prop)
    (result : Ending × Session) : Prop :=
  match result.1 with
  | .completed output pages =>
    output = job.output ∧ ∃ contents place, wanted contents pages ∧
      Store.Replaced job.output contents place before result.2.store
  | .interrupted _ | .failed _ => Store.Grows job.output.directory before result.2.store
  | .crashed _ => False

variable {job : Job} {before : Store} {wanted : Bytes → Nat → Prop}

namespace Session

@[simp]
theorem store_enter (session : Session) (context : Context) (stage : Stage) :
    (session.enter context stage).store = session.store := by
  unfold enter
  split <;> rfl

@[simp]
theorem store_trace (session : Session) (context : Context) (message : String) :
    (session.trace context message).store = session.store := by
  unfold trace
  split <;> rfl

end Session

/-- Asking whether to stop changes no files. -/
theorem allOrNothing_checkpoint (context : Context) (stage : Stage)
    {next : Session → Ending × Session} {session : Session} (hbefore : session.store = before)
    (h : ∀ after : Session, after.store = before → AllOrNothing job before wanted (next after)) :
    AllOrNothing job before wanted (checkpoint context stage next session) := by
  unfold checkpoint
  split
  · rename_i stopped heq
    have hstore : stopped.store = session.store := (congrArg (fun r => r.2.store) heq).symm
    change Store.Grows _ before stopped.store
    rw [hstore, hbefore]
    exact .refl _ _
  · rename_i asked heq
    have hstore : asked.store = session.store := (congrArg (fun r => r.2.store) heq).symm
    exact h _ ((asked.store_enter context stage).trans (hstore.trans hbefore))

/-- A draft that is ready is published, or dropped with everything as before. -/
theorem allOrNothing_publishDraft (context : Context) {contents : Bytes} {pages : Nat}
    (hwanted : wanted contents pages) {middle : Store} {folder : Place} {session : Session}
    (hgrows : Store.Grows job.output.directory before middle)
    (hstore : session.store = { middle with drafts := ⟨folder, contents⟩ :: middle.drafts }) :
    AllOrNothing job before wanted (publishDraft job context contents pages session) := by
  unfold publishDraft
  split
  · rename_i stopped heq
    have hsame : stopped.store = session.store := (congrArg (fun r => r.2.store) heq).symm
    change Store.Grows _ before stopped.store.discard
    rw [hsame, hstore]
    exact hgrows
  · rename_i asked heq
    have hsame : asked.store = session.store := (congrArg (fun r => r.2.store) heq).symm
    rw [hsame, hstore]
    split
    · rename_i refusal store hcommit
      rcases Store.commit_cases hcommit with ⟨_, rfl⟩ | ⟨hok, _⟩
      · exact hgrows
      · cases hok
    · rename_i store hcommit
      rcases Store.commit_cases hcommit with ⟨⟨_, herror⟩, _⟩ | ⟨_, place, hfolder, rfl, hlocate⟩
      · cases herror
      · refine ⟨rfl, contents, place, hwanted, ?_⟩
        rw [Session.store_trace]
        exact hgrows.replaced hfolder hlocate

theorem allOrNothing_writeStage (context : Context) {contents : Bytes} {pages : Nat}
    (hwanted : wanted contents pages) {session : Session} (hbefore : session.store = before) :
    AllOrNothing job before wanted (writeStage job context contents pages session) := by
  have hgrows := Store.grows_makeFolders session.store job.output.directory
  rw [hbefore] at hgrows
  unfold writeStage
  simp only [hbefore]
  split
  · rename_i refusal store heq
    rw [heq] at hgrows
    exact hgrows
  · rename_i middle heq
    rw [heq] at hgrows
    split
    · rename_i refusal store hprepare
      rcases Store.prepare_cases hprepare with ⟨_, rfl⟩ | ⟨hok, _⟩
      · exact hgrows
      · cases hok
    · rename_i drafted hprepare
      rcases Store.prepare_cases hprepare with ⟨⟨_, herror⟩, _⟩ | ⟨_, folder, hdrafted⟩
      · cases herror
      · exact allOrNothing_publishDraft context hwanted hgrows hdrafted

/-- What is written for a document. -/
def Written (page : PageConfig) (job : Job) (document : Document) (contents : Bytes) (pages : Nat) :
    Prop :=
  contents = Pdf.encode (compose document job.kind job.options page) (documentTitle document job)
    page ∧ pages = (compose document job.kind job.options page).length

theorem allOrNothing_layoutStage (page : PageConfig) (context : Context) {document : Document}
    (hwanted : ∀ contents pages, Written page job document contents pages → wanted contents pages)
    {session : Session} (hbefore : session.store = before) :
    AllOrNothing job before wanted (layoutStage page job context document session) := by
  unfold layoutStage
  refine allOrNothing_checkpoint context .encode ((session.store_trace _ _).trans hbefore)
    fun after hafter => ?_
  exact allOrNothing_checkpoint context .write hafter fun _ hlast =>
    allOrNothing_writeStage context (hwanted _ _ ⟨rfl, rfl⟩) hlast

theorem allOrNothing_analyzeStage (page : PageConfig) (context : Context) {source : Source}
    (hwanted : ∀ document, analyze job.kind (before.loadItems (itemFolder job.source)) source =
      .ok document → ∀ contents pages, Written page job document contents pages →
        wanted contents pages)
    {session : Session} (hbefore : session.store = before) :
    AllOrNothing job before wanted (analyzeStage page job context source session) := by
  unfold analyzeStage
  simp only [hbefore]
  split
  · change Store.Grows _ before session.store
    rw [hbefore]
    exact .refl _ _
  · rename_i document hdocument
    exact allOrNothing_checkpoint context .layout ((Session.store_trace _ _ _).trans hbefore)
      fun _ hafter => allOrNothing_layoutStage page context (hwanted document hdocument) hafter

theorem allOrNothing_renderDocument (page : PageConfig) (context : Context)
    (hwanted : ∀ source, readSource before job = .ok source → ∀ document,
      analyze job.kind (before.loadItems (itemFolder job.source)) source = .ok document →
        ∀ contents pages, Written page job document contents pages → wanted contents pages)
    {session : Session} (hbefore : session.store = before) :
    AllOrNothing job before wanted (renderDocument page job context session) := by
  refine allOrNothing_checkpoint context .load hbefore fun loaded hloaded => ?_
  unfold loadStage
  rw [hloaded]
  split
  · change Store.Grows _ before loaded.store
    rw [hloaded]
    exact .refl _ _
  · rename_i source hsource
    exact allOrNothing_checkpoint context .analyze hloaded fun _ hafter =>
      allOrNothing_analyzeStage page context (hwanted source hsource) hafter

/-- A compilation that completes has put the file of the document in the place of the
output, all of it, and has changed no other file. One that stops or fails has changed no
file. Either way there may be new folders on the way to the output and no new drafts. -/
theorem renderDocument_allOrNothing (page : PageConfig) (job : Job) (context : Context)
    (session : Session) :
    let result := renderDocument page job context session
    match result.1 with
    | .completed output pages =>
      output = job.output ∧ ∃ source document place,
        readSource session.store job = .ok source ∧
        analyze job.kind (session.store.loadItems (itemFolder job.source)) source = .ok document ∧
        pages = (compose document job.kind job.options page).length ∧
        Store.Replaced job.output
          (Pdf.encode (compose document job.kind job.options page) (documentTitle document job) page)
          place session.store result.2.store
    | .interrupted _ | .failed _ =>
      Store.Grows job.output.directory session.store result.2.store
    | .crashed _ => False := by
  intro result
  -- What is wanted is the file of a document that the source has been found to be.
  have hall : AllOrNothing job session.store (fun contents pages => ∃ source document,
      readSource session.store job = .ok source ∧
      analyze job.kind (session.store.loadItems (itemFolder job.source)) source = .ok document ∧
      Written page job document contents pages) result :=
    allOrNothing_renderDocument page context (fun source hsource document hdocument _ _ hwritten =>
      ⟨source, document, hsource, hdocument, hwritten⟩) rfl
  unfold AllOrNothing at hall
  split at hall
  · obtain ⟨houtput, contents, place, ⟨source, document, hsource, hdocument, rfl, hpages⟩,
      hreplaced⟩ := hall
    exact ⟨houtput, source, document, place, hsource, hdocument, hpages, hreplaced⟩
  · exact hall
  · exact hall
  · exact hall

end Vitae
