import Vitae.Files.Path
import Vitae.Files.Refusal

/-!
# The Store of Files

The files that documents are read from and written to: a tree of folders, held
as a flat list of places with what is there. A place is the list of names on
the way from the root. Paths are looked up name by name, and every name on the
way but the last must be that of a folder.

A file is replaced in two steps, so that no reader ever sees half of it. The
new contents are collected in a draft, a file without a name; publishing the
draft puts it in place of whatever file was there, in one step. A draft that is
discarded leaves nothing behind.

Any operation can also be refused for reasons that lie outside the tree, such
as a full disk. What is refused is a parameter of the store.

## Main definitions

* `Place`, `Node`: Where something is, and what it is.
* `Access`: The operations that can be refused.
* `Store`: The files and folders, the folder paths start from, and the drafts.
* `Store.locate`: The place a path leads to.
* `Store.read`, `Store.readText`: The contents of a file.
* `Store.makeFolder`, `Store.makeFolders`: Folders made on demand.
* `Store.stage`, `Store.fill`, `Store.flush`, `Store.publish`,
  `Store.discard`: The life of a draft.
* `Store.replaceFile`: A file written through a draft.

## Theorems

* `Store.node?_put_self`, `Store.node?_put_of_ne`: What is where after
  something has been put somewhere.
-/

namespace Vitae

/-- Where something is: the names on the way from the root. -/
abbrev Place := List Bytes

/-- What can be at a place. -/
inductive Node where
  | file (contents : Bytes)
  | folder
  /-- Something that can be opened but is neither file nor folder. -/
  | device
deriving DecidableEq, Repr

/-- A file without a name, in the folder it was made in. -/
structure Draft where
  folder : Place
  contents : Bytes
deriving DecidableEq, Repr

/-- The operations that can be refused for reasons outside the tree. -/
inductive Access where
  | inspect (path : Path)
  | read (path : Path)
  | makeFolder (path : Path)
  | stage (folder : Path)
  | fill
  | flush
  | publish (path : Path)
deriving DecidableEq, Repr

/-- The files and folders. -/
structure Store where
  /-- What is where. -/
  nodes : List (Place × Node)
  start : Place
  drafts : List Draft
  /-- What is refused for reasons outside the tree. -/
  refuses : Access → Option Refusal

namespace Store

/-- What is at a place. -/
def node? (store : Store) (place : Place) : Option Node :=
  store.nodes.lookup place

/-- The entries after `node` has been put at `place`. -/
def putNode (place : Place) (node : Node) : List (Place × Node) → List (Place × Node)
  | [] => [(place, node)]
  | (p, n) :: rest =>
    if p = place then (place, node) :: rest else (p, n) :: putNode place node rest

/-- The store after `node` has been put at `place`. -/
def put (store : Store) (place : Place) (node : Node) : Store :=
  { store with nodes := putNode place node store.nodes }

@[simp]
theorem node?_put_self (store : Store) (place : Place) (node : Node) :
    (store.put place node).node? place = some node := by
  simp only [node?, put]
  induction store.nodes with
  | nil => simp [putNode]
  | cons entry rest ih =>
    obtain ⟨p, n⟩ := entry
    by_cases h : p = place
    · simp [putNode, h]
    · have hb : (place == p) = false := by simpa using fun e => h e.symm
      simp [putNode, h, List.lookup_cons, hb, ih]

theorem node?_put_of_ne (store : Store) {place other : Place} (h : other ≠ place)
    (node : Node) : (store.put place node).node? other = store.node? other := by
  simp only [node?, put]
  have ho : (other == place) = false := by simpa using h
  induction store.nodes with
  | nil => simp [putNode, List.lookup_cons, ho]
  | cons entry rest ih =>
    obtain ⟨p, n⟩ := entry
    by_cases hp : p = place
    · subst hp
      simp [putNode, List.lookup_cons, ho]
    · simp only [putNode, hp, if_false, List.lookup_cons]
      split
      · rfl
      · exact ih

/-! ### Looking up paths -/

def longestName : Nat := 255

/-- The longest path that can be looked up. -/
def longestPath : Nat := 4095

/-- The place reached from `here` by going through the given segments. -/
def walk (store : Store) (here : Place) : List Bytes → Except Refusal Place
  | [] => .ok here
  | segment :: rest =>
    match store.node? here with
    | none => .error .notThere
    | some .folder =>
      if segment.isEmpty || segment == Path.dot then walk store here rest
      else if segment == Path.dotDot then walk store here.dropLast rest
      else if longestName < segment.length then .error .nameTooLong
      else
        let next := here ++ [segment]
        match store.node? next with
        | none => .error .notThere
        | some _ => walk store next rest
    | some _ => .error .notAFolder

/-- The place that looking up a path starts from. -/
def origin (store : Store) (path : Path) : Place :=
  if path.isAbsolute then [] else store.start

/-- Refuses what is no path at all. -/
def wellFormed (path : Path) : Except Refusal Unit :=
  if path.bytes.contains 0 then .error .zeroByte
  else if path.bytes.isEmpty then .error .notThere
  else if longestPath < path.bytes.length then .error .nameTooLong
  else .ok ()

def locate (store : Store) (path : Path) : Except Refusal Place := do
  wellFormed path
  store.walk (store.origin path) (Path.segments path.bytes)

/-- Where a new entry is to go. -/
structure Slot where
  folder : Place
  /-- The name of the entry, unless the path ends in a step such as `..`. -/
  name : Option Bytes
  /-- Whether the path insists on a folder by a slash at its end. -/
  slashed : Bool
deriving DecidableEq, Repr

/-- The place of the entry, if it has a name. -/
def Slot.place? (slot : Slot) : Option Place :=
  slot.name.map (fun name => slot.folder ++ [name])

/-- Where an entry of the given path is to go. Its folder must be there. -/
def slot (store : Store) (path : Path) : Except Refusal Slot := do
  wellFormed path
  let segments := Path.segments path.bytes
  let kept := (segments.reverse.dropWhile List.isEmpty).reverse
  let slashed := kept.length < segments.length
  match kept.getLast? with
  | none => .ok ⟨[], none, slashed⟩
  | some last =>
    let folder ← store.walk (store.origin path) kept.dropLast
    match store.node? folder with
    | some .folder =>
      if last == Path.dot || last == Path.dotDot then .ok ⟨folder, none, slashed⟩
      else if longestName < last.length then .error .nameTooLong
      else .ok ⟨folder, some last, slashed⟩
    | some _ => .error .notAFolder
    | none => .error .notThere

/-- Stops where the given operation is refused. -/
def permit (store : Store) (access : Access) : Except Refusal Unit :=
  match store.refuses access with
  | some refusal => .error refusal
  | none => .ok ()

/-- What a path leads to. -/
def inspect (store : Store) (path : Path) : Except Refusal Node := do
  store.permit (.inspect path)
  let place ← store.locate path
  match store.node? place with
  | some node => .ok node
  | none => .error .notThere

/-- Whether a path leads to a regular file. -/
def isFile (store : Store) (path : Path) : Bool :=
  match store.inspect path with
  | .ok (.file _) => true
  | _ => false

def isFolder (store : Store) (path : Path) : Bool :=
  match store.inspect path with
  | .ok .folder => true
  | _ => false

/-- Whether two paths lead to the same place, where something is. -/
def samePlace (store : Store) (p q : Path) : Bool :=
  match store.locate p, store.locate q with
  | .ok a, .ok b => a == b
  | _, _ => false

/-! ### Reading -/

/-- Whether a path can be opened for reading. A folder can, though it cannot be
read from. -/
def canOpen (store : Store) (path : Path) : Except Refusal Unit := do
  store.permit (.read path)
  let _ ← store.locate path
  .ok ()

def read (store : Store) (path : Path) : Except Refusal Bytes := do
  store.permit (.read path)
  let place ← store.locate path
  match store.node? place with
  | some (.file contents) => .ok contents
  | some .folder => .error .isAFolder
  | some .device => .ok []
  | none => .error .notThere

def readText (store : Store) (path : Path) : Except Refusal String := do
  match Utf8.decode? (← store.read path) with
  | some text => .ok text
  | none => .error .notText

/-! ### Folders -/

def makeFolder (store : Store) (path : Path) : Except Refusal Store := do
  store.permit (.makeFolder path)
  match (← store.slot path).place? with
  | none => .error .alreadyThere
  | some place =>
    if (store.node? place).isSome then .error .alreadyThere
    else .ok (store.put place .folder)

/-- Makes a folder and, as far as needed, the folders above it. Folders made
before something was refused stay. Every step upwards shortens the path, so its
length is fuel enough. -/
def makeFoldersWithin : Nat → Store → Path → Except Refusal Unit × Store
  | 0, store, _ => (.ok (), store)
  | fuel + 1, store, path =>
    let finish (store : Store) (refusal : Refusal) : Except Refusal Unit × Store :=
      if store.isFolder path then (.ok (), store) else (.error refusal, store)
    if path.bytes.isEmpty then (.ok (), store)
    else
      match store.makeFolder path with
      | .ok store => (.ok (), store)
      | .error .notThere =>
        match path.parent with
        | none => (.error (.other "failed to create whole tree"), store)
        | some parent =>
          match makeFoldersWithin fuel store parent with
          | (.error refusal, store) => (.error refusal, store)
          | (.ok (), store) =>
            match store.makeFolder path with
            | .ok store => (.ok (), store)
            | .error refusal => finish store refusal
      | .error refusal => finish store refusal

/-- Makes a folder and, as far as needed, the folders above it. -/
def makeFolders (store : Store) (path : Path) : Except Refusal Unit × Store :=
  makeFoldersWithin (path.bytes.length + 1) store path

/-! ### Drafts -/

/-- Begins a draft in a folder. The empty path stands for the folder that paths
start from. -/
def stage (store : Store) (folder : Path) : Except Refusal Store := do
  store.permit (.stage folder)
  let place ← if folder.bytes.isEmpty then .ok store.start else store.locate folder
  match store.node? place with
  | some .folder => .ok { store with drafts := ⟨place, []⟩ :: store.drafts }
  | _ => .error .notAFolder

def fill (store : Store) (contents : Bytes) : Except Refusal Store := do
  store.permit .fill
  match store.drafts with
  | draft :: rest => .ok { store with drafts := { draft with contents := contents } :: rest }
  | [] => .error .notThere

def flush (store : Store) : Except Refusal Store := do
  store.permit .flush
  .ok store

/-- Puts the last draft in the place of the file a path names. -/
def publish (store : Store) (path : Path) : Except Refusal Store := do
  store.permit (.publish path)
  if path.bytes.contains 0 then .error .badArgument
  let slot ← store.slot path
  match slot.place? with
  | none => .error .inUse
  | some place =>
    if slot.slashed then .error .notAFolder
    else
      match store.node? place, store.drafts with
      | some .folder, _ => .error .isAFolder
      | _, draft :: rest =>
        .ok { (store.put place (.file draft.contents)) with drafts := rest }
      | _, [] => .error .notThere

def discard (store : Store) : Store :=
  { store with drafts := store.drafts.drop 1 }

/-- Writes a draft of the given contents, up to the point where it could be
published. A draft that could not be finished is dropped. -/
def prepare (store : Store) (folder : Path) (contents : Bytes) :
    Except Refusal Unit × Store :=
  match store.stage folder with
  | .error refusal => (.error refusal, store)
  | .ok staged =>
    match staged.fill contents with
    | .error refusal => (.error refusal, staged.discard)
    | .ok filled =>
      match filled.flush with
      | .error refusal => (.error refusal, filled.discard)
      | .ok flushed => (.ok (), flushed)

/-- Publishes the last draft, or drops it if that is refused. -/
def commit (store : Store) (path : Path) : Except Refusal Unit × Store :=
  match store.publish path with
  | .error refusal => (.error refusal, store.discard)
  | .ok published => (.ok (), published)

/-- Writes a file through a draft in the given folder. -/
def replaceFile (store : Store) (folder path : Path) (contents : Bytes) :
    Except Refusal Unit × Store :=
  match store.prepare folder contents with
  | (.error refusal, store) => (.error refusal, store)
  | (.ok (), store) => store.commit path

end Store

end Vitae
