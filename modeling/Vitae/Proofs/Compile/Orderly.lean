import Vitae.Proofs.Compile.Guarded

/-!
# What Is Left Alone

The files while workers take turns on documents. Whatever is new in them is accounted for:
it is a folder on the way to an output, or it has the name of a document that was
published. The steps of a worker are guarded, so each turn keeps the account, and a
document is published only by a worker that was told each time to go on.

Documents of different kinds have different names, so what one worker publishes is never
in the place of the other. The output of a document that was not published is left alone,
but for a folder that may have been made there: the directory of an output is made before
its worker asks for the last time, and its path may run through the output itself.

## Main definitions

* `LeftAlone`: An output of which no file was made, changed or removed.
* `Accounted`: Files of which all that is new is accounted for.
* `Orderly`: A crew that works on documents and has published some of them.

## Theorems

* `Accounted.grows`, `Accounted.placed`: What keeps the account.
* `Accounted.leftAlone`: A document that was not published.
* `Orderly.turn`, `Orderly.take`: Turns of a crew that works on documents.
* `Orderly.succeeded_iff`: What was published is reported as a success.
-/

namespace Vitae

/-- An output of which no file was made, changed or removed: there is what was there, or
a folder that was made on the way to an output, where nothing was. -/
def LeftAlone (config : Config) (kind : Kind) (before after : Store) : Prop :=
  ∀ place, before.locate (config.outputPath kind) = .ok place ∨
      after.locate (config.outputPath kind) = .ok place →
    after.node? place = before.node? place ∨
      ∃ other, Store.Made (config.outputPath other).directory before after place

variable {config : Config} {before : Store} {published : Kind → Bool} {crew : Crew}

/-- The name of the file of a document. -/
def Kind.fileBytes (kind : Kind) : Bytes :=
  Utf8.encode kind.fileName

theorem Kind.simple_fileBytes (kind : Kind) : Path.Simple kind.fileBytes := by
  cases kind <;> exact ⟨by decide, by decide, by decide, by decide⟩

theorem Kind.fileBytes_injective {a b : Kind} (h : a.fileBytes = b.fileBytes) : a = b := by
  revert h
  cases a <;> cases b <;> decide

/-- The document of a kind is written to a place of its name. -/
theorem Config.getLast?_of_locate {store : Store} {kind : Kind} {place : Place}
    (h : store.locate (config.outputPath kind) = .ok place) :
    place.getLast? = some kind.fileBytes :=
  Store.getLast?_of_locate_join kind.simple_fileBytes h

/-- Files of which all that is new is accounted for: it is a folder on the way to an
output, or it has the name of a document that was published. -/
structure Accounted (config : Config) (published : Kind → Bool) (before after : Store) : Prop where
  start : after.start = before.start
  node : ∀ place, after.node? place = before.node? place ∨
    (∃ kind, Store.Made (config.outputPath kind).directory before after place) ∨
    ∃ kind, published kind = true ∧ place.getLast? = some kind.fileBytes

namespace Accounted

variable {middle after : Store} {kind : Kind}

theorem grows (h : Accounted config published before middle)
    (hgrows : Store.Grows (config.outputPath kind).directory middle after) :
    Accounted config published before after := by
  refine ⟨hgrows.start.trans h.start, fun place => ?_⟩
  have hkeep := hgrows.keepsFolders
  rcases h.node place with heq | ⟨other, hmade⟩ | hpublished
  · -- Where nothing had changed, a folder may be made now.
    rcases hgrows.node place with hsame | hmade
    · exact .inl (hsame.trans heq)
    · exact .inr (.inl ⟨kind, heq ▸ hmade.nothing, hmade.folder, hmade.onTheWay⟩)
  · exact .inr (.inl ⟨other, hmade.of_keepsFolders hkeep hgrows.start⟩)
  · exact .inr (.inr hpublished)

/-- A document that is put in place is published. -/
theorem placed (h : Accounted config published before middle) {contents : Bytes} {place : Place}
    (hput : Store.PutAt (config.outputPath kind) contents place middle after) :
    Accounted config (Function.update published kind true) before after := by
  refine ⟨hput.start.trans h.start, fun other => ?_⟩
  by_cases hother : other = place
  · exact .inr (.inr ⟨kind, Function.update_self .., hother ▸ Config.getLast?_of_locate hput.locate⟩)
  · rcases h.node other with heq | ⟨upper, hmade⟩ | ⟨earlier, hpublished, hlast⟩
    · exact .inl ((hput.other hother).trans heq)
    · exact .inr (.inl ⟨upper, hmade.of_keepsFolders hput.keepsFolders hput.start⟩)
    · refine .inr (.inr ⟨earlier, ?_, hlast⟩)
      rw [Function.update_apply]
      split_ifs
      · rfl
      · exact hpublished

/-- The output of a document that was not published is left alone. -/
theorem leftAlone (h : Accounted config published before after)
    (hkind : published kind = false) : LeftAlone config kind before after := by
  intro place hplace
  rcases h.node place with heq | hmade | ⟨other, hpublished, hlast⟩
  · exact .inl heq
  · exact .inr hmade
  · -- The place has the name of the document, and no other document has that name.
    have hname : place.getLast? = some kind.fileBytes :=
      hplace.elim Config.getLast?_of_locate Config.getLast?_of_locate
    have hsame : other = kind :=
      Kind.fileBytes_injective (Option.some.inj (hlast.symm.trans hname))
    rw [hsame, hkind] at hpublished
    cases hpublished

end Accounted

theorem LeftAlone.of_withDrafts {after : Store} {kind : Kind} {drafts : List Draft}
    (h : LeftAlone config kind before (after.withDrafts drafts)) :
    LeftAlone config kind before after := by
  intro place hplace
  rw [← Store.locate_withDrafts after drafts] at hplace
  rcases h place hplace with heq | ⟨other, hnothing, hfolder, upper, habove, hlocate⟩
  · exact .inl heq
  · rw [Store.locate_withDrafts] at hlocate
    exact .inr ⟨other, hnothing, hfolder, upper, habove, hlocate⟩

/-- A crew that works on documents and has published some of them. -/
structure Orderly (config : Config) (before : Store) (published : Kind → Bool) (crew : Crew) :
    Prop where
  store : Accounted config published before (crew.session.store.withDrafts [])
  output : ∀ kind worker, crew.workers kind = some worker →
    worker.pending.unit.output = config.outputPath kind
  guarded : ∀ kind worker, crew.workers kind = some worker →
    worker.process.Guarded worker.pending.unit.job (Report.Tells kind) worker.answers
      (published kind)
  goAhead : ∀ kind, published kind = true → ∃ worker, crew.workers kind = some worker ∧
    worker.answers = Process.goAhead

namespace Orderly

variable {kind : Kind} {worker : Worker}

/-- What a turn has to preserve: the account of the files, and what is known of the worker
who has it. -/
theorem of_step (h : Orderly config before published crew) (hworker : crew.workers kind = some worker)
    {published' : Kind → Bool} (hothers : ∀ other ≠ kind, published' other = published other)
    (hstore : Accounted config published' before
      ((worker.step crew.session).2.store.withDrafts []))
    (hguarded : (worker.step crew.session).1.process.Guarded worker.pending.unit.job
      (Report.Tells kind) (worker.step crew.session).1.answers (published' kind))
    (hgoAhead : published' kind = true →
      (worker.step crew.session).1.answers = Process.goAhead) :
    Orderly config before published' (crew.turn kind) := by
  have hturn := Crew.workers_turn hworker
  have hpending := worker.pending_step crew.session
  refine ⟨?_, fun other after hafter => ?_, fun other after hafter => ?_, fun other hpublished => ?_⟩
  · rw [Crew.turn_of_some hworker]
    exact hstore
  · rw [hturn] at hafter
    split_ifs at hafter with hother
    · cases hafter
      rw [hpending, hother]
      exact h.output kind worker hworker
    · exact h.output other after hafter
  · rw [hturn] at hafter
    split_ifs at hafter with hother
    · cases hafter
      rw [hpending, hother]
      exact hguarded
    · rw [hothers other hother]
      exact h.guarded other after hafter
  · rw [hturn]
    split_ifs with hother
    · exact ⟨_, rfl, hgoAhead (hother ▸ hpublished)⟩
    · exact h.goAhead other (hothers other hother ▸ hpublished)

/-- A turn of a crew that works on documents. -/
theorem turn (h : Orderly config before published crew) (kind : Kind) :
    ∃ published', Orderly config before published' (crew.turn kind) := by
  cases hworker : crew.workers kind with
  | none =>
    rw [Crew.turn_of_none hworker]
    exact ⟨published, h⟩
  | some worker =>
    obtain ⟨pending, process, drafts, answers⟩ := worker
    have houtput := h.output kind _ hworker
    have hguarded := h.guarded kind _ hworker
    have hgoAhead : published kind = true → answers = Process.goAhead := by
      intro hpublished
      obtain ⟨_, hsame, hanswers⟩ := h.goAhead kind hpublished
      cases hworker.symm.trans hsame
      exact hanswers
    -- What the turn may do is what its process is guarded for, in the files as they are.
    cases process with
    | done report => exact ⟨published, h.of_step hworker (fun _ _ => rfl) h.store hguarded hgoAhead⟩
    | ask next =>
      obtain ⟨hnone, hnext⟩ := hguarded
      refine ⟨published, h.of_step hworker (fun _ _ => rfl) h.store (hnext _) fun hpublished => ?_⟩
      rw [hnone] at hpublished
      cases hpublished
    | act effect next =>
      rcases hguarded (crew.session.store.withDrafts drafts) with
        ⟨hgrows, hnext⟩ | ⟨hnone, hanswers, ⟨contents, place, hput⟩, hnext⟩
      · change Store.GrowsBare pending.unit.output.directory _ _ at hgrows
        rw [houtput] at hgrows
        exact ⟨published, h.of_step hworker (fun _ _ => rfl) (h.store.grows hgrows) hnext hgoAhead⟩
      · change Store.PutAt pending.unit.output _ _ _ _ at hput
        rw [houtput] at hput
        refine ⟨Function.update published kind true, h.of_step hworker
          (fun other hother => Function.update_of_ne hother ..) (h.store.placed hput) ?_ fun _ => hanswers⟩
        rw [Function.update_self]
        exact hnext

/-- A worker that has reported tells whether its document was published. -/
theorem tells (h : Orderly config before published crew) (hworker : crew.workers kind = some worker)
    {report : Report} (hreport : worker.report? = some report) :
    report.Tells kind (published kind) := by
  have hguarded := h.guarded kind worker hworker
  unfold Worker.report? at hreport
  split at hreport
  · rename_i hdone
    cases hreport
    rw [hdone] at hguarded
    exact hguarded
  · cases hreport

theorem reportsOwn (h : Orderly config before published crew) : crew.ReportsOwn :=
  fun _ _ _ hworker hreport => (h.tells hworker hreport).1

theorem take (h : Orderly config before published crew) (turns : List Kind) :
    ∃ published', Orderly config before published' (crew.take turns) :=
  Crew.take_induction (P := fun crew => ∃ published', Orderly config before published' crew)
    (fun _ kind ⟨_, h⟩ => h.turn kind) crew turns ⟨published, h⟩

end Orderly

/-! ### The crew for a configuration -/

/-- A crew begins with nothing published. -/
theorem Config.orderly_crew (config : Config) (page : PageConfig) (session : Session) :
    Orderly config session.store (fun _ => false) (config.crew (.document page) session) := by
  have hworker : ∀ kind worker, (config.crew (.document page) session).workers kind = some worker →
      ∃ p : Pending, worker = .start (.document page) session.elapsed p ∧ p.unit ∈ config.units ∧
        p.unit.kind = kind := by
    intro kind worker hworker
    obtain ⟨p, hp, rfl⟩ := Option.map_eq_some_iff.mp hworker
    obtain ⟨hp, hkind⟩ := Config.mem_of_pendingFor hp
    exact ⟨p, rfl, (mem_pending_dispatch hp).1, hkind⟩
  refine ⟨?_, ?_, ?_, fun _ h => absurd h Bool.false_ne_true⟩
  · rw [config.store_crew]
    exact ⟨rfl, fun _ => .inl rfl⟩
  · intro kind worker h
    obtain ⟨p, rfl, hunit, rfl⟩ := hworker kind worker h
    obtain ⟨_, -, heq⟩ := Config.mem_units.mp hunit
    exact congrArg WorkUnit.output heq
  · intro kind worker h
    obtain ⟨p, rfl, hunit, rfl⟩ := hworker kind worker h
    exact Procedure.guarded_worker page session.elapsed (Config.status_of_mem_units hunit)

/-- A document that is on record is a success if it was published. -/
theorem Orderly.succeeded_iff {page : PageConfig} {session : Session}
    {turns : List Kind} {published : Kind → Bool}
    (h : Orderly config session.store published ((config.crew (.document page) session).take turns))
    {u : WorkUnit} (hu : u ∈ config.units) {report : Report}
    (hreport : ((config.crew (.document page) session).take turns).results.get? u.kind = some report) :
    report.status = .succeeded ↔ published u.kind = true := by
  rw [Crew.get?_results h.reportsOwn, Crew.recorded_take] at hreport
  cases hresolve : u.resolve session.store with
  | ok _ =>
    -- The report is one of a worker, who tells.
    rw [Config.recorded_of_resolves (.document page) hu hresolve, Option.or_none] at hreport
    obtain ⟨worker, hworker, hreport⟩ := Option.bind_eq_some_iff.mp hreport
    exact (h.tells hworker hreport).2
  | error error =>
    -- There is no worker, so nothing was published.
    have hnone := Crew.workers_take_of_none
      (Config.workers_of_rejected (.document page) hu hresolve) turns
    rw [hnone, Config.recorded_of_rejected (.document page) hu hresolve,
      u.rejection_eq (Config.status_of_mem_units hu)] at hreport
    cases hreport
    refine iff_of_false nofun fun hpublished => ?_
    obtain ⟨_, hworker, -⟩ := h.goAhead u.kind hpublished
    rw [hnone] at hworker
    cases hworker

end Vitae
