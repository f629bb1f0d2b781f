import Vitae.Proofs.Compile.Workers
import Vitae.Proofs.Files.Ways

/-!
# Nothing Is Published Too Early

The work on a document asks seven times whether to stop, and puts its file in place only
when it was told each time to go on. Until then it makes folders at most, and after that
it changes nothing more. This holds step by step, whatever others do to the files in
between, because it says for each step what it may do to any store.

Drafts have no name, so they are left out where stores are compared.

## Main definitions

* `Store.GrowsBare`, `Store.PlacedBare`: What a step may do to the files, drafts aside.
* `Process.Guarded`: A process that publishes only when it was told seven times to go on.
* `Ending.Tells`, `Report.Tells`: An end that tells whether a file was put in place.

## Theorems

* `Process.Guarded.bind`: One guarded thing after the other.
* `guarded_documentSteps`: The five stages.
* `Procedure.guarded_worker`: The work on a document.
-/

namespace Vitae

/-! ### Drafts aside -/

namespace Store

variable {before middle after store : Store} {path : Path} {place : Place}

theorem locate_withDrafts (store : Store) (drafts : List Draft) (path : Path) :
    (store.withDrafts drafts).locate path = store.locate path :=
  locate_congr rfl fun _ _ => rfl

/-- A store with more folders on the way to a path. Only the drafts may differ as well. -/
def GrowsBare (path : Path) (before after : Store) : Prop :=
  Grows path (before.withDrafts []) (after.withDrafts [])

/-- A store with a file put where a path leads. Only the drafts may differ as well. -/
def PlacedBare (path : Path) (before after : Store) : Prop :=
  ∃ contents place, PutAt path contents place (before.withDrafts []) (after.withDrafts [])

theorem GrowsBare.refl (path : Path) (store : Store) : GrowsBare path store store :=
  Grows.refl path _

theorem GrowsBare.of_eq (h : after.withDrafts [] = before.withDrafts []) :
    GrowsBare path before after := by
  rw [GrowsBare, h]
  exact .refl path _

theorem Grows.bare (h : Grows path before after) : GrowsBare path before after := by
  refine ⟨fun place => ?_, h.start, rfl⟩
  rcases h.node place with heq | ⟨hnothing, hfolder, upper, habove, hlocate⟩
  · exact .inl heq
  · exact .inr ⟨hnothing, hfolder, upper, habove, (locate_withDrafts _ _ _).trans hlocate⟩

theorem exists_draft_of_publish (h : store.publish path = .ok after) :
    ∃ draft rest, store.drafts = draft :: rest := by
  cases hdrafts : store.drafts with
  | cons draft rest => exact ⟨draft, rest, rfl⟩
  | nil =>
    -- Every way to publish nothing is refused.
    obtain ⟨-, -, h⟩ := bind_eq_ok.mp h
    split at h
    · cases h
    · obtain ⟨slot, -, h⟩ := bind_eq_ok.mp h
      rw [hdrafts] at h
      split at h
      · cases h
      · split at h
        · cases h
        · split at h
          · cases h
          · rename_i hsome _
            cases hsome
          · cases h

/-- Committing puts a file in place or fails, and nothing else changes. -/
theorem commit_bare {result : Except Refusal Unit} (h : store.commit path = (result, after)) :
    ((∃ refusal, result = .error refusal) ∧ GrowsBare path.directory store after) ∨
      (result = .ok () ∧ PlacedBare path store after) := by
  cases hdrafts : store.drafts with
  | nil =>
    unfold commit at h
    split at h
    · cases h
      exact .inl ⟨⟨_, rfl⟩, .of_eq rfl⟩
    · rename_i hpublish
      obtain ⟨_, _, hsome⟩ := exists_draft_of_publish hpublish
      rw [hdrafts] at hsome
      cases hsome
  | cons draft rest =>
    have hstore : store = { store.withDrafts rest with drafts := draft :: rest } := by
      rw [← hdrafts]
      rfl
    -- The draft that is published is the last one, whatever others there are.
    rw [hstore] at h
    rcases commit_cases h with ⟨hrefused, rfl⟩ | ⟨hok, place, hfolder, rfl, hlocate⟩
    · exact .inl ⟨hrefused, .of_eq rfl⟩
    · exact .inr ⟨hok, draft.contents, place, hfolder, rfl,
        (locate_withDrafts _ _ _).trans hlocate⟩

/-- Preparing a draft changes nothing but the drafts. -/
theorem prepare_bare {folder : Path} {contents : Bytes} :
    GrowsBare path store (store.prepare folder contents).2 := by
  cases hprepare : store.prepare folder contents with
  | mk result after =>
    rcases prepare_cases hprepare with ⟨-, rfl⟩ | ⟨-, _, rfl⟩
    · exact .refl path after
    · exact .of_eq rfl

end Store

/-! ### Guarded processes -/

namespace Process

variable {α β : Type} {job : Job} {ends : Bool → α → Prop} {answers : List Bool} {published : Bool}

/-- To be told seven times to go on. -/
def goAhead : List Bool := List.replicate 7 false

/-- A process that was given some answers so far, and puts a file in place once at most,
when it was told seven times to go on. Whether it has done so is told at its end. -/
def Guarded (job : Job) (ends : Bool → α → Prop) : List Bool → Bool → Process α → Prop
  | _, published, .done result => ends published result
  | answers, published, .ask next =>
    published = false ∧ ∀ stop, (next stop).Guarded job ends (answers ++ [stop]) published
  | answers, published, .act effect next => ∀ store : Store,
    (Store.GrowsBare job.output.directory store (effect store).1 ∧
      (next store).Guarded job ends answers published) ∨
    (published = false ∧ answers = goAhead ∧ Store.PlacedBare job.output store (effect store).1 ∧
      (next store).Guarded job ends answers true)

theorem guarded_note {entries : List LogEntry} {next : Process α}
    (h : next.Guarded job ends answers published) :
    (note entries next).Guarded job ends answers published :=
  fun store => .inl ⟨.refl _ store, h⟩

/-- An action that makes folders at most. -/
theorem guarded_act {effect : Store → Store × List LogEntry} {next : Store → Process α}
    (hgrows : ∀ store, Store.GrowsBare job.output.directory store (effect store).1)
    (h : ∀ store, (next store).Guarded job ends answers published) :
    (act effect next).Guarded job ends answers published :=
  fun store => .inl ⟨hgrows store, h store⟩

theorem Guarded.bind {ends' : Bool → β → Prop} {after : α → Process β} {process : Process α}
    (h : process.Guarded job ends answers published)
    (hafter : ∀ answers published result, ends published result →
      (after result).Guarded job ends' answers published) :
    (process.bind after).Guarded job ends' answers published := by
  induction process generalizing answers published with
  | done result => exact hafter answers published result h
  | ask next ih => exact ⟨h.1, fun stop => ih stop (h.2 stop)⟩
  | act effect next ih =>
    intro store
    rcases h store with ⟨hgrows, hnext⟩ | ⟨hnone, hanswers, hplaced, hnext⟩
    · exact .inl ⟨hgrows, ih store hnext⟩
    · exact .inr ⟨hnone, hanswers, hplaced, ih store hnext⟩

end Process

/-! ### Documents -/

/-- An end that tells whether a file was put in place. -/
def Ending.Tells (published : Bool) : Ending → Prop
  | .completed _ _ => published = true
  | _ => published = false

section Document

variable {page : PageConfig} {job : Job} {context : Context} {answers : List Bool}

theorem guarded_checkpointSteps {stage : Stage} {steps : Process Ending}
    (h : steps.Guarded job Ending.Tells (answers ++ [false]) false) :
    (checkpointSteps context stage steps).Guarded job Ending.Tells answers false := by
  refine ⟨rfl, fun stop => ?_⟩
  cases stop with
  | true => exact (rfl : Ending.Tells false (.interrupted stage))
  | false => exact Process.guarded_note h

/-- The draft is published if the seventh answer is to go on as well. -/
theorem guarded_publishSteps (contents : Bytes) (pages : Nat) :
    (publishSteps job context contents pages).Guarded job Ending.Tells (List.replicate 6 false)
      false := by
  refine ⟨rfl, fun stop => ?_⟩
  cases stop with
  | true => exact Process.guarded_act (fun store => .of_eq rfl) fun _ => rfl
  | false =>
    -- Only here may the file be put in place, and the seven answers are complete.
    intro store
    beta_reduce
    cases hcommit : store.commit job.output with
    | mk result after =>
      rcases Store.commit_bare hcommit with ⟨⟨refusal, rfl⟩, hgrows⟩ | ⟨rfl, hplaced⟩
      · exact .inl ⟨hgrows, rfl⟩
      · exact .inr ⟨rfl, rfl, hplaced, Process.guarded_note rfl⟩

theorem guarded_writeSteps (contents : Bytes) (pages : Nat) :
    (writeSteps job context contents pages).Guarded job Ending.Tells (List.replicate 6 false)
      false := by
  refine Process.guarded_act (fun store => (Store.grows_makeFolders store _).bare) fun store => ?_
  cases (store.makeFolders job.output.directory).1 with
  | error refusal => exact (rfl : Ending.Tells false (.failed _))
  | ok _ =>
    refine Process.guarded_act (fun store => Store.prepare_bare) fun store => ?_
    cases (store.prepare job.output.directory contents).1 with
    | error refusal => exact (rfl : Ending.Tells false (.failed _))
    | ok _ => exact guarded_publishSteps contents pages

theorem guarded_layoutSteps (document : Document) :
    (layoutSteps page job context document).Guarded job Ending.Tells (List.replicate 4 false)
      false :=
  Process.guarded_note (guarded_checkpointSteps (guarded_checkpointSteps (guarded_writeSteps _ _)))

theorem guarded_analyzeSteps (source : Source) :
    (analyzeSteps page job context source).Guarded job Ending.Tells (List.replicate 3 false)
      false := by
  refine Process.guarded_act (fun store => .refl _ store) fun store => ?_
  cases analyze job.kind (store.loadItems (itemFolder job.source)) source with
  | error problems => exact (rfl : Ending.Tells false (.failed _))
  | ok document =>
    exact Process.guarded_note (guarded_checkpointSteps (guarded_layoutSteps document))

theorem guarded_loadSteps :
    (loadSteps page job context).Guarded job Ending.Tells (List.replicate 2 false) false := by
  refine Process.guarded_act (fun store => .refl _ store) fun store => ?_
  cases readSource store job with
  | error error => exact (rfl : Ending.Tells false (.failed _))
  | ok source => exact guarded_checkpointSteps (guarded_analyzeSteps source)

/-- The five stages, after the worker was told to go on. -/
theorem guarded_documentSteps (page : PageConfig) (job : Job) (context : Context) :
    (documentSteps page job context).Guarded job Ending.Tells [false] false :=
  guarded_checkpointSteps guarded_loadSteps

end Document

/-! ### Workers -/

/-- A report on a kind of document that tells whether its file was put in place. -/
def Report.Tells (kind : Kind) (published : Bool) (report : Report) : Prop :=
  report.kind = kind ∧ (report.status = .succeeded ↔ published = true)

namespace Procedure

theorem guarded_told {job : Job} {ends : Bool → Report → Prop} {answers : List Bool}
    {published : Bool} {result : Report × Session} (h : ends published result.1) :
    (told result).Guarded job ends answers published :=
  Process.guarded_note h

/-- The report on a unit that was under way tells whether its file was put in place. -/
theorem tells_conclude {u v : WorkUnit} (hstatus : u.status = .running) (hkind : u.kind = v.kind)
    (context : Context) {published : Bool} {ending : Ending} (hending : ending.Tells published)
    (session : Session) :
    (Batch.reportOf v (u.conclude context ending session)).1.Tells v.kind published := by
  rcases WorkUnit.conclude_cases hstatus context ending session with
    ⟨words, rfl, hconclude⟩ | ⟨report, _, hconclude, hreport, -, hreflects⟩
  · cases (hending : published = false)
    rw [hconclude]
    exact ⟨rfl, iff_of_false nofun Bool.false_ne_true⟩
  · rw [hconclude]
    refine ⟨hreport.trans hkind, ?_⟩
    change report.status = .succeeded ↔ _
    cases ending with
    | completed _ _ =>
      cases (hending : published = true)
      exact iff_of_true hreflects.1 rfl
    | interrupted _ | failed _ | crashed _ =>
      cases (hending : published = false)
      rw [hreflects.1]
      exact iff_of_false nofun Bool.false_ne_true

/-- The work on a document. -/
theorem guarded_worker (page : PageConfig) (elapsed : Kind → Nat) {pending : Pending}
    (hstatus : pending.unit.status = .pending) :
    ((Procedure.document page).worker elapsed pending).Guarded pending.unit.job
      (Report.Tells pending.unit.kind) [] false := by
  have hadvance : pending.unit.status.canAdvanceTo .running = true := by
    rw [hstatus]
    rfl
  refine ⟨rfl, fun stop => ?_⟩
  cases stop with
  | true =>
    obtain ⟨_, hcancel⟩ := WorkUnit.cancelBeforeStart_eq hstatus (Batch.contextOf pending)
      (blank elapsed)
    refine guarded_told ?_
    rw [hcancel]
    exact ⟨rfl, iff_of_false nofun Bool.false_ne_true⟩
  | false =>
    -- The stages begin with the first answer given, and what follows them only logs.
    have hrunning := WorkUnit.transition_eq hadvance (Batch.contextOf pending) (blank elapsed)
    simp only [Bool.false_eq_true, if_false, hrunning]
    refine Process.guarded_note (Process.Guarded.bind
      (guarded_documentSteps page pending.unit.job _) fun answers published ending hending => ?_)
    exact guarded_told (tells_conclude rfl rfl _ hending _)

end Procedure

end Vitae
