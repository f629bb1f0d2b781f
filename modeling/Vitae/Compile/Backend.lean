import Vitae.Compile.Failure
import Vitae.Compile.Session
import Vitae.Document.Loading
import Vitae.Layout.Compose
import Vitae.Pdf.File

/-!
# Backends

What turns a source into a file. Any backend can serve; the one that is used
unless another is asked for goes through five stages, and before each of them it
asks whether to stop. The file is written to a draft first and there is one more
question before the draft is published, so a compilation that stops has changed
nothing.

## Main definitions

* `Job`: What is to be compiled.
* `Ending`: How a compilation ends.
* `Backend`: What turns a source into a file.
* `renderDocument`: The five stages.
* `Backend.document`: The backend that goes through them.
-/

namespace Vitae

/-- What is to be compiled. -/
structure Job where
  kind : Kind
  source : Path
  output : Path
  options : Options
deriving DecidableEq, Repr

/-- How a compilation ends. -/
inductive Ending where
  /-- The file has been written. -/
  | completed (output : Path) (pages : Nat)
  /-- It stopped when asked to, before the given stage. -/
  | interrupted (stage : Stage)
  | failed (error : RenderError)
  /-- It crashed, with what it said if it said anything. -/
  | crashed (words : Option String)

/-- What turns a source into a file. -/
structure Backend where
  name : String
  render : Job → Context → Session → Ending × Session

/-- Asks whether to stop before a stage, and goes on with it otherwise. -/
def checkpoint (context : Context) (stage : Stage) (next : Session → Ending × Session)
    (session : Session) : Ending × Session :=
  match session.poll context with
  | (true, session) => (.interrupted stage, session)
  | (false, session) => next (session.enter context stage)

/-- The folder in which the items of a document are looked up. -/
def itemFolder (source : Path) : Path :=
  source.parent.getD ⟨Path.dot⟩

/-- The title of the file of a document. -/
def documentTitle (document : Document) (job : Job) : String :=
  match (effectivePersonal document.personal job.options).name with
  | some name => name ++ " - " ++ job.kind.title
  | none => job.kind.title

def readSource (store : Store) (job : Job) : Except RenderError Source :=
  match store.readText job.source with
  | .error refusal => .error (.refused refusal)
  | .ok text =>
    match Source.parse text with
    | .error fault => .error (.malformed job.source fault)
    | .ok source => .ok source

/-- Publishes the draft of a file, unless asked to stop. -/
def publishDraft (job : Job) (context : Context) (contents : Bytes) (pages : Nat)
    (session : Session) : Ending × Session :=
  match session.poll context with
  | (true, session) =>
    (.interrupted .write, { session with store := session.store.discard })
  | (false, session) =>
    match session.store.commit job.output with
    | (.error refusal, store) => (.failed (.refused refusal), { session with store := store })
    | (.ok (), store) =>
      (.completed job.output pages,
        { session with store := store }.trace context
          ("wrote " ++ toString contents.length ++ " byte(s) to " ++ job.output.display))

/-- The last stage: the contents go to a draft beside the output, and the draft
is published. -/
def writeStage (job : Job) (context : Context) (contents : Bytes) (pages : Nat)
    (session : Session) : Ending × Session :=
  let folder := job.output.directory
  match session.store.makeFolders folder with
  | (.error refusal, store) => (.failed (.refused refusal), { session with store := store })
  | (.ok (), store) =>
    match store.prepare folder contents with
    | (.error refusal, store) => (.failed (.refused refusal), { session with store := store })
    | (.ok (), store) =>
      publishDraft job context contents pages { session with store := store }

def encodeStage (page : PageConfig) (job : Job) (context : Context) (document : Document)
    (pages : List Page) (session : Session) : Ending × Session :=
  let contents := Pdf.encode pages (documentTitle document job) page
  checkpoint context .write (writeStage job context contents pages.length) session

def layoutStage (page : PageConfig) (job : Job) (context : Context) (document : Document)
    (session : Session) : Ending × Session :=
  let pages := compose document job.kind job.options page
  checkpoint context .encode (encodeStage page job context document pages)
    (session.trace context ("laid out " ++ toString pages.length ++ " page(s)"))

def analyzeStage (page : PageConfig) (job : Job) (context : Context) (source : Source)
    (session : Session) : Ending × Session :=
  let load := session.store.loadItems (itemFolder job.source)
  let session := session.noteAll (Analysis.run job.kind load source).shelf.entries
  match analyze job.kind load source with
  | .error problems => (.failed (.invalid (problems.map Problem.message)), session)
  | .ok document =>
    checkpoint context .layout (layoutStage page job context document)
      (session.trace context
        ("analyzed " ++ toString document.sections.length ++ " section(s)"))

def loadStage (page : PageConfig) (job : Job) (context : Context) (session : Session) :
    Ending × Session :=
  match readSource session.store job with
  | .error error => (.failed error, session)
  | .ok source => checkpoint context .analyze (analyzeStage page job context source) session

def renderDocument (page : PageConfig) (job : Job) (context : Context) :
    Session → Ending × Session :=
  checkpoint context .load (loadStage page job context)

/-- The backend that lays documents out on pages of the given measures. -/
def Backend.document (page : PageConfig) : Backend where
  name := "document"
  render := renderDocument page

end Vitae
