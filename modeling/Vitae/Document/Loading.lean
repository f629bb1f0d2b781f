import Vitae.Document.Analysis
import Vitae.Files.Store
import Vitae.Log.Entry

/-!
# Loading Items

Where the items that a document refers to are found: in the folder of the
document, in a file named like the first part of the reference. A missing file
is told from one that cannot be read and from one that holds something else.

## Main definitions

* `Store.itemPath`: The path of an item file.
* `Store.loadItems`: What is found in an item file.
* `Shelf.entries`: The use of item files, as log entries.
-/

namespace Vitae

/-- The path of an item file of the given name. -/
def Store.itemPath (folder : Path) (name : String) : Path :=
  folder.join (Path.ofText (name ++ ".json"))

/-- What is found in the item file of the given name. -/
def Store.loadItems (store : Store) (folder : Path) (name : String) : LoadedFile :=
  let path := Store.itemPath folder name
  if store.isFile path then
    match store.readText path with
    | .error refusal => .error (.unreadable path refusal.message)
    | .ok text =>
      match ItemFile.parse text with
      | .error fault => .error (.invalid path fault)
      | .ok items => .ok items
  else .error (.missing path)

/-- The use of an item file as a log entry. -/
def FileUse.entry (use : FileUse) : LogEntry where
  level := .debug
  origin := [LogEntry.program, "render", "analyze"]
  message := if use.remembered then "item file cache hit" else "item file cache miss"
  fields := [("reference", .quoted use.reference)]

def Shelf.entries (shelf : Shelf) : List LogEntry :=
  shelf.uses.map FileUse.entry

end Vitae
