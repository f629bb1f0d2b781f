import Vitae.Program.Run

/-!
# Footprints

The files that a call of the program asks about. What they are depends on what
others of them hold: the file of variables can name the folder of the documents,
and a source can name item files. So the footprint grows when more is known, and
what is not in it does not matter to the call.

## Main definitions

* `footprint`: The paths that a call asks about, as far as the files are known.
-/

namespace Vitae

/-- The item files that a source refers to. -/
def itemPaths (store : Store) (path : Path) : List Path :=
  match store.readText path with
  | .error _ => []
  | .ok text =>
    match Source.parse text with
    | .error _ => []
    | .ok source =>
      source.sections.flatMap fun s =>
        s.items.filterMap fun item =>
          match item with
          | .reference text =>
            (Reference.parse? text).map fun r => Store.itemPath (itemFolder path) r.file
          | .inline _ => none

def Settings.paths (settings : Settings) : List Path :=
  let outputs := Kind.all.map fun kind =>
    settings.outputFolder.join (Path.ofText kind.fileName)
  let record := settings.backendFolder.join (Path.ofText Updater.recordName)
  settings.cvSource.toList ++ settings.letterSource.toList ++ outputs ++ [record]

/-- The files of variables that a call could read, the nearest first. -/
def variablePaths : List Bytes → List Path
  | [] => [VariableFile.pathIn []]
  | name :: outer => VariableFile.pathIn (name :: outer) :: variablePaths outer

/-- The paths that a call asks about, as far as the files are known. -/
def footprint (arguments : List Bytes) (environment : Environment) (store : Store) : List Path :=
  let found := (VariableFile.read store environment).toOption.getD environment
  let others :=
    match Settings.ofArguments found (spellOutAll arguments) with
    | .error _ => []
    | .ok settings =>
      settings.paths ++
        (settings.cvSource.toList ++ settings.letterSource.toList).flatMap (itemPaths store)
  variablePaths store.start.reverse ++ others

end Vitae
