import Vitae.Proofs.Analysis.Transparency
import Vitae.Proofs.Files.Beside
import Vitae.Proofs.Text.Utf8

/-!
# References and the Folder of a Document

Items are meant to be kept in the folder of the document that refers to them, each file under
the name that the reference gives. That is where they are looked up if the name has no slash:
the path is the folder with one more part, and so is the place. What the files look like
anywhere else does not show in an analysis (`confined_items`).

A name with a slash is a path of its own. It is followed from the folder, up as well as down,
or from the root if it begins there (`Store.placeOf_itemPath`), and nothing stops it from
leaving the folder (`not_forall_confined`). It never leads to the folder with that name as one
part, since a part has no slash.

## Main definitions

* `Path.partsOf`: What stretches stand for.
* `Store.itemName`: The name of an item file.
* `Store.SameFolder`: Two states of the files that look the same from inside a folder.

## Theorems

* `Path.parts_join`: The parts of a path that has been put together.
* `Store.placeOf_join`, `Store.mem_wayOf_join`: Where it leads, and what it comes by.
* `Store.parts_itemPath_iff`: When the path of items has one part below the folder.
* `Store.placeOf_itemPath`: Where the path of items leads.
* `Store.SameFolder.loadItems`: Items are found without a look outside of the folder.
* `confined_items`: What of the files an analysis depends on.
* `not_forall_confined`: A document that shows what is outside of its folder.
-/

namespace Vitae

namespace Path

variable {folder path : Path} {name : Bytes}

/-! ### Parts -/

/-- What the stretches of a path stand for. -/
def partsOf (absolute : Bool) : List Bytes → List Part
  | [] => []
  | first :: rest =>
    (if absolute then [.root] else if first == dot then [.here] else (innerPart? first).toList) ++
      rest.filterMap innerPart?

theorem parts_eq (path : Path) : path.parts = partsOf path.isAbsolute (segments path.bytes) := by
  unfold parts partsOf
  cases segments path.bytes with
  | nil => rfl
  | cons first rest => simp only [apply_ite (· ++ rest.filterMap innerPart?), List.singleton_append]

theorem partsOf_append (absolute : Bool) {way : List Bytes} (h : way ≠ []) (rest : List Bytes) :
    partsOf absolute (way ++ rest) = partsOf absolute way ++ rest.filterMap innerPart? := by
  cases way with
  | nil => exact absurd rfl h
  | cons first way =>
    rw [List.cons_append, partsOf, partsOf, List.filterMap_append, List.append_assoc]

/-- A path that is put behind a folder goes on from the parts of the folder. -/
theorem parts_join (hpath : path.isAbsolute = false) (hfolder : folder.bytes ≠ []) :
    (folder.join path).parts = folder.parts ++ (segments path.bytes).filterMap innerPart? := by
  obtain ⟨way, idle, hsegments, hidle, hway, hjoin⟩ := exists_segments_join folder
  -- What the join leaves out of the folder stands for nothing.
  have hnothing : idle.filterMap innerPart? = [] := by
    rw [List.filterMap_eq_nil_iff]
    intro segment hsegment
    rw [hidle segment hsegment]
    rfl
  rw [parts_eq, parts_eq, isAbsolute_join hpath, hjoin path hpath, hsegments,
    partsOf_append _ (hway hfolder), partsOf_append _ (hway hfolder), hnothing, List.append_nil]

theorem Simple.innerPart?_eq (h : Simple name) : innerPart? name = some (.name name) := by
  rw [innerPart?, h.isIdle_eq, h.isUp_eq]
  rfl

theorem parts_join_of_simple (h : Simple name) (folder : Path) :
    (folder.join ⟨name⟩).parts = folder.parts ++ [.name name] := by
  have hsegments : segments name = [name] := segments_of_notMem h.slash_notMem
  by_cases hfolder : folder.bytes = []
  · have hjoin : folder.join ⟨name⟩ = ⟨name⟩ := by
      rw [join, h.isAbsolute_eq, hfolder]
      rfl
    have hnone : folder.parts = [] := by
      rw [parts_eq, isAbsolute, hfolder]
      rfl
    rw [hjoin, hnone, parts_eq, h.isAbsolute_eq, hsegments, partsOf, h.innerPart?_eq]
    rw [if_neg Bool.false_ne_true, if_neg (by simpa using h.ne_dot)]
    rfl
  · rw [parts_join h.isAbsolute_eq hfolder, hsegments, List.filterMap_cons_some h.innerPart?_eq]
    rfl

/-- A part of a path has no slash. -/
theorem slash_notMem_of_mem_parts (h : .name name ∈ path.parts) : slash ∉ name := by
  have hinner : ∀ segment, innerPart? segment = some (.name name) → segment = name := by
    intro segment hsegment
    unfold innerPart? at hsegment
    split_ifs at hsegment
    · cases hsegment
    · exact Part.name.inj (Option.some.inj hsegment)
  suffices hmem : name ∈ segments path.bytes from slash_notMem_of_mem_segments hmem
  rw [parts_eq] at h
  cases hsegments : segments path.bytes with
  | nil =>
    rw [hsegments] at h
    cases h
  | cons first rest =>
    rw [hsegments, partsOf, List.mem_append, List.mem_filterMap] at h
    rcases h with h | ⟨segment, hsegment, h⟩
    · split_ifs at h
      · cases List.mem_singleton.mp h
      · cases List.mem_singleton.mp h
      · rw [hinner first (Option.mem_toList.mp h)]
        exact List.mem_cons_self
    · rw [← hinner segment h]
      exact List.mem_cons_of_mem first hsegment

end Path

namespace Store

variable {before after store : Store} {folder path : Path} {place : Place} {name : Bytes}
variable {file : String}

/-! ### Places -/

theorem reach_idle {idle : List Bytes} (h : ∀ segment ∈ idle, segment = []) (here : Place) :
    reach here idle = here := by
  induction idle with
  | nil => rfl
  | cons segment rest ih =>
    rw [h segment List.mem_cons_self]
    exact ih fun other hother => h other (List.mem_cons_of_mem segment hother)

/-- A path that is put behind a folder is followed from the folder. -/
theorem placeOf_join (hpath : path.isAbsolute = false) :
    store.placeOf (folder.join path) = reach (store.placeOf folder) (Path.segments path.bytes) := by
  obtain ⟨way, idle, hsegments, hidle, -, hjoin⟩ := Path.exists_segments_join folder
  unfold placeOf origin
  rw [Path.isAbsolute_join hpath, hjoin path hpath, hsegments, reach_append, reach_append,
    reach_idle hidle]

theorem reach_of_simple (h : Path.Simple name) (here : Place) :
    reach here (Path.segments name) = here ++ [name] := by
  rw [Path.segments_of_notMem h.slash_notMem, reach, h.isIdle_eq, h.isUp_eq]
  rfl

theorem mem_along_append {here : Place} {xs ys : List Bytes} :
    place ∈ along here (xs ++ ys) ↔ place ∈ along here xs ∨ place ∈ along (reach here xs) ys := by
  induction xs generalizing here with
  | nil =>
    rw [List.nil_append, along, reach, List.mem_singleton]
    exact ⟨.inr, Or.rec (fun h => h ▸ mem_along_self here ys) id⟩
  | cons segment rest ih =>
    rw [List.cons_append, along, along, reach, List.mem_cons, List.mem_cons, or_assoc]
    split_ifs <;> rw [ih]

/-- What lies on the way of a name in a folder. -/
theorem mem_wayOf_join (h : Path.Simple name)
    (hplace : place ∈ store.wayOf (folder.join ⟨name⟩)) :
    place ∈ store.wayOf folder ∨ place = store.placeOf folder ++ [name] := by
  obtain ⟨way, idle, hsegments, hidle, -, hjoin⟩ := Path.exists_segments_join folder
  unfold wayOf placeOf origin at *
  rw [Path.isAbsolute_join h.isAbsolute_eq, hjoin _ h.isAbsolute_eq,
    Path.segments_of_notMem h.slash_notMem, mem_along_append] at hplace
  rw [hsegments, mem_along_append, reach_append, reach_idle hidle]
  -- The way of the name begins at the folder, and there is one more place behind.
  rcases hplace with hplace | hplace
  · exact .inl (.inl hplace)
  · rw [along, h.isIdle_eq, h.isUp_eq, List.mem_cons] at hplace
    rcases hplace with rfl | hplace
    · exact .inl (.inl (reach_mem_along _ _))
    · exact .inr (List.mem_singleton.mp hplace)

/-! ### Item files -/

/-- The name of an item file, as a path. -/
def itemName (file : String) : Path :=
  Path.ofText (file ++ ".json")

theorem bytes_itemName (file : String) : (itemName file).bytes = Utf8.encode file ++ itemEnding :=
  Utf8.encode_append _ _

theorem slash_mem_encode_iff : Path.slash ∈ Utf8.encode file ↔ '/' ∈ file.toList :=
  Utf8.mem_encode_iff (by decide : '/'.toNat < 0x80)

theorem simple_itemName (h : '/' ∉ file.toList) : Path.Simple (itemName file).bytes := by
  rw [bytes_itemName]
  exact Path.simple_itemName (mt slash_mem_encode_iff.mp h)

/-- Items are looked up under the name of their file in the folder, unless the name has a
slash. -/
theorem parts_itemPath_iff :
    (itemPath folder file).parts = folder.parts ++ [.name (itemName file).bytes] ↔
      '/' ∉ file.toList := by
  constructor
  · intro h
    -- The name is one of the parts, so it has no slash.
    have hmem : .name (itemName file).bytes ∈ (itemPath folder file).parts := by
      rw [h]
      exact List.mem_append_right _ List.mem_cons_self
    have hslash := Path.slash_notMem_of_mem_parts hmem
    rw [bytes_itemName, List.mem_append, not_or] at hslash
    exact mt slash_mem_encode_iff.mpr hslash.1
  · exact fun h => Path.parts_join_of_simple (simple_itemName h) folder

/-- The name of an item file is followed from the folder, or from the root. -/
theorem placeOf_itemPath (store : Store) (folder : Path) (file : String) :
    store.placeOf (itemPath folder file) =
      reach (if (itemName file).isAbsolute then [] else store.placeOf folder)
        (Path.segments (itemName file).bytes) := by
  change store.placeOf (folder.join (itemName file)) = _
  cases h : (itemName file).isAbsolute with
  | false => exact placeOf_join h
  | true =>
    unfold placeOf origin
    rw [Path.join, h]
    simp only [if_true, h]

/-- Two states of the files that look the same from inside a folder. -/
structure SameFolder (folder : Path) (before after : Store) : Prop where
  refuses : after.refuses = before.refuses
  start : after.start = before.start
  /-- The folder is found in the same way. -/
  way : ∀ place ∈ before.wayOf folder, after.node? place = before.node? place
  inside : ∀ name, after.node? (before.placeOf folder ++ [name]) =
    before.node? (before.placeOf folder ++ [name])

/-- Items are found without a look outside of the folder. -/
theorem SameFolder.loadItems (h : SameFolder folder before after) (hfile : '/' ∉ file.toList) :
    after.loadItems folder file = before.loadItems folder file := by
  refine SameView.loadItems (.of_way h.refuses h.start fun place hplace => ?_)
  rcases mem_wayOf_join (simple_itemName hfile) hplace with hplace | rfl
  · exact h.way place hplace
  · exact h.inside _

end Store

/-- Items are looked up in the folder of a document under the name of their file exactly if the
name has no slash, and then they lie directly in the folder. A document that refers to no other
items is analyzed without a look outside of its folder. -/
theorem confined_items (folder : Path) :
    (∀ file : String, (Store.itemPath folder file).parts =
      folder.parts ++ [.name (Store.itemName file).bytes] ↔ '/' ∉ file.toList) ∧
    (∀ (store : Store) (file : String), store.placeOf (Store.itemPath folder file) =
      Store.reach (if (Store.itemName file).isAbsolute then [] else store.placeOf folder)
        (Path.segments (Store.itemName file).bytes)) ∧
    (∀ (store : Store) (file : String) (place : Place), '/' ∉ file.toList →
      store.locate (Store.itemPath folder file) = .ok place →
        place = store.placeOf folder ++ [(Store.itemName file).bytes]) ∧
    ∀ (before after : Store) (document : Kind) (source : Source),
      Store.SameFolder folder before after →
      (∀ citation ∈ source.citations, '/' ∉ citation.file.toList) →
        Analysis.run document (after.loadItems folder) source =
          Analysis.run document (before.loadItems folder) source := by
  refine ⟨fun _ => Store.parts_itemPath_iff, fun store file => store.placeOf_itemPath folder file,
    fun store file place hfile hlocate => ?_, fun before after document source h hfiles =>
      Analysis.run_congr fun citation hcitation => h.loadItems (hfiles citation hcitation)⟩
  have hsimple := Store.simple_itemName hfile
  rw [← Store.placeOf_of_locate hlocate, Store.placeOf_itemPath, hsimple.isAbsolute_eq,
    if_neg Bool.false_ne_true, Store.reach_of_simple hsimple]

/-- A folder with an item file, and another file beside the folder. -/
def folderBeside (other : String) : Store where
  nodes :=
    [([], .folder), ([Utf8.encode "docs"], .folder),
      ([Utf8.encode "docs", Utf8.encode "jobs.json"],
        .file (Utf8.encode "\x7b\"now\":\x7b\"paragraph\":\"Here\"\x7d\x7d")),
      ([Utf8.encode "secret.json"], .file (Utf8.encode other))]
  start := []
  drafts := []
  refuses := fun _ => none

/-- A document that refers to one item. -/
def referringTo (text : String) : Source :=
  ⟨.blank, [⟨"Work", [.reference text]⟩]⟩

/-- An item of the folder is found in it, whatever is beside the folder. -/
theorem confined_items_beside :
    '/' ∉ "jobs".toList ∧
      (folderBeside "").locate (Store.itemPath (.ofText "docs") "jobs") =
        .ok [Utf8.encode "docs", Utf8.encode "jobs.json"] ∧
      [Utf8.encode "docs", Utf8.encode "jobs.json"] =
        (folderBeside "").placeOf (.ofText "docs") ++ [(Store.itemName "jobs").bytes] ∧
      Store.SameFolder (.ofText "docs") (folderBeside "") (folderBeside "\x7b\x7d") ∧
      (∀ citation ∈ (referringTo "jobs::now").citations, '/' ∉ citation.file.toList) ∧
      Analysis.run .cv ((folderBeside "\x7b\x7d").loadItems (.ofText "docs"))
          (referringTo "jobs::now") =
        Analysis.run .cv ((folderBeside "").loadItems (.ofText "docs")) (referringTo "jobs::now") := by
  have hlocate : (folderBeside "").locate (Store.itemPath (.ofText "docs") "jobs") =
      .ok [Utf8.encode "docs", Utf8.encode "jobs.json"] := by decide +kernel
  have hfile : '/' ∉ "jobs".toList := by decide
  have hother : ∀ place, place ≠ [Utf8.encode "secret.json"] →
      (folderBeside "\x7b\x7d").node? place = (folderBeside "").node? place := by
    intro place hplace
    simp only [Store.node?, folderBeside, List.lookup_cons, beq_eq_false_iff_ne.mpr hplace]
  have hsame : Store.SameFolder (.ofText "docs") (folderBeside "") (folderBeside "\x7b\x7d") := by
    refine ⟨rfl, rfl, fun place hplace => hother place ?_, fun name => hother _ ?_⟩
    · have hway : (folderBeside "").wayOf (.ofText "docs") = [[], [Utf8.encode "docs"]] := by
        decide +kernel
      rw [hway] at hplace
      revert place
      decide +kernel
    · have hplace : (folderBeside "").placeOf (.ofText "docs") = [Utf8.encode "docs"] := by
        decide +kernel
      rw [hplace]
      exact fun h => absurd (congrArg List.length h) (by simp)
  have hfiles : ∀ citation ∈ (referringTo "jobs::now").citations, '/' ∉ citation.file.toList := by
    decide +kernel
  exact ⟨hfile, hlocate, (confined_items (.ofText "docs")).2.2.1 _ _ _ hfile hlocate, hsame, hfiles,
    (confined_items (.ofText "docs")).2.2.2 _ _ .cv _ hsame hfiles⟩

/-- A reference can lead out of the folder, and what is found there shows in the document. -/
theorem not_forall_confined :
    (¬∀ (folder : Path) (text : String) (reference : Reference),
      Reference.parse? text = some reference → ∀ (store : Store) (place : Place),
        store.isFile (Store.itemPath folder reference.file) = true →
        store.locate (Store.itemPath folder reference.file) = .ok place →
          store.placeOf folder <+: place) ∧
      (analyze .cv
        ((folderBeside "\x7b\"x\":\x7b\"paragraph\":\"hidden\"\x7d\x7d").loadItems (.ofText "docs"))
        (referringTo "../secret::x")).toOption =
          some ⟨.blank, [⟨"Work", .paragraph, [.paragraph "hidden"]⟩]⟩ := by
  refine ⟨fun h => ?_, by decide +kernel⟩
  have hprefix := h (.ofText "docs") "../secret::x" ⟨"../secret", "x"⟩ (by decide +kernel)
    (folderBeside "") [Utf8.encode "secret.json"] (by decide +kernel) (by decide +kernel)
  exact absurd hprefix (by decide +kernel)

end Vitae
