import Mathlib.Data.List.Sublists
import Vitae.Document.Check
import Vitae.Proofs.Labels.Pieces

/-!
# The Order of Labels

Labels are resolved one after the other, each everywhere in the text, so what was put in
for an earlier label is searched for the later ones. When does this come to the same as
putting in all texts at once?

It does where no invocation of a later label ever turns up beside the others
(`Independent`), and then the order of the labels does not show (`substitute_anyOrder`).
Without braces in names and texts this can be seen from the text alone: taking out the
invocations must not leave one (`Flat`), for what is put in instead has no braces and can
only bring more between those that are there. A text that is put together from pieces
without braces is flat in any case (`substitute_written`).

In general the order does matter (`order_matters`). That names and texts have no pairs of
braces is not enough, as an invocation can stand within the marks of another one.

## Main definitions

* `cut`: A text cut into the invocations of labels and what stands beside them.
* `resolvedAtOnce`: A text with all labels resolved at once.
* `Independent`: Labels that resolve independently of each other.
* `Unbraced`, `Flat`: Texts without braces, and without nested invocations.

## Theorems

* `written_cut`: Cutting loses nothing.
* `substitute_of_independent`: Independent labels resolve in any order as they do at once.
* `Thinned.invocation`: Where an invocation is thinned, an invocation is left.
* `independent_of_unbraced`: Labels without braces are independent in a flat text.
* `substitute_anyOrder`: The order of labels does not matter in such texts.
* `order_matters`: It does in others.
* `substitute_written`: A text that is put together from pieces is resolved piece by piece.
-/

namespace Vitae

namespace Labels

/-! ### Labels in any order -/

/-- A text cut into the invocations of labels and single characters, from the left. -/
def cut (labels : List Label) : List Char → List Piece
  | [] => []
  | c :: cs =>
    match labels.find? (fun label => label.invocation.isPrefixOf (c :: cs)) with
    | some label =>
      .invocation label.name :: cut labels (cs.drop (label.invocation.length - 1))
    | none => .literal (String.singleton c) :: cut labels cs
termination_by cs => cs.length
decreasing_by
  all_goals
    simp only [List.length_drop, List.length_cons]
    omega

/-- A text with all labels resolved at once: each invocation in it becomes the text of its
label, and nothing that comes into the text this way is looked at again. -/
def resolvedAtOnce (labels : List Label) (text : String) : String :=
  String.ofList (written (resolve labels (cut labels text.toList)))

/-- Labels that resolve independently of each other in a text. Once some of them have been
resolved, what stands beside the invocations that remain has no invocation of another one,
not even with those that remain taken out. -/
def Independent (labels : List Label) (text : String) : Prop :=
  ∀ done, done.Sublist labels → ∀ label ∈ labels, label ∉ done →
    ¬label.invocation <:+: beside (resolve done (cut labels text.toList))

instance (labels : List Label) (text : String) : Decidable (Independent labels text) :=
  decidable_of_iff
    (∀ done ∈ labels.sublists, ∀ label ∈ labels, label ∉ done →
      ¬label.invocation <:+: beside (resolve done (cut labels text.toList)))
    (forall_congr' fun _ => imp_congr_left List.mem_sublists)

section AnyOrder

variable {labels other : List Label} {text : String}

/-- Cutting loses nothing. -/
theorem written_cut (labels : List Label) (text : List Char) : written (cut labels text) = text := by
  induction text using cut.induct labels with
  | case1 => rw [cut]; rfl
  | case2 c cs label hfind ih =>
      have hstarts := List.find?_some hfind
      obtain ⟨rest, hrest⟩ := List.isPrefixOf_iff_prefix.mp hstarts
      -- The invocation is in front, so dropping all but its first character leaves the rest.
      have hdrop : cs.drop (label.invocation.length - 1) = rest := by
        have hcs : label.invocation.tail ++ rest = cs := (List.cons.inj hrest).2
        rw [← hcs, ← List.length_tail, List.drop_left]
      rw [hdrop] at ih
      rw [cut, hfind]
      simp only [hdrop, written_invocation, ih]
      exact hrest
  | case3 c cs hfind ih =>
      rw [cut, hfind]
      simp only [written_literal, ih, String.toList_singleton]
      rfl

theorem name_of_mem_cut {name : String} {cs : List Char}
    (h : .invocation name ∈ cut labels cs) : ∃ label ∈ labels, label.name = name := by
  induction cs using cut.induct labels with
  | case1 => rw [cut] at h; exact absurd h List.not_mem_nil
  | case2 c cs label hfind ih =>
      rw [cut, hfind] at h
      rcases List.mem_cons.mp h with heq | h
      · exact ⟨label, List.mem_of_find?_eq_some hfind, (Piece.invocation.inj heq).symm⟩
      · exact ih h
  | case3 c cs hfind ih =>
      rw [cut, hfind] at h
      rcases List.mem_cons.mp h with heq | h
      · exact absurd heq nofun
      · exact ih h

/-- Independent labels resolve in any order as they do at once. -/
theorem substitute_of_independent (hnames : (labels.map Label.name).Nodup)
    (hlabels : ∀ label ∈ labels, Sealed label.name) (hindep : Independent labels text)
    (hperm : other.Perm labels) : substitute other text = resolvedAtOnce labels text := by
  have hother : (other.map Label.name).Nodup := (hperm.map Label.name).nodup_iff.mpr hnames
  have hpieces : ∀ name, .invocation name ∈ cut labels text.toList → Sealed name := by
    intro name hname
    obtain ⟨label, hlabel, rfl⟩ := name_of_mem_cut hname
    exact hlabels label hlabel
  have hbeside : ∀ done label, done ++ [label] <+: other →
      ¬label.invocation <:+: beside (resolve done (cut labels text.toList)) := by
    intro done label hstarts
    have hsublist := hstarts.sublist
    have hnodup := (List.Nodup.of_map Label.name hother).sublist hsublist
    have hmem : ∀ l ∈ done ++ [label], l ∈ labels := fun l hl =>
      hperm.mem_iff.mp (hsublist.subset hl)
    -- The labels that come first, in the order in which the condition lists them.
    have hsame : ∀ l, l ∈ done ↔ l ∈ labels.filter (fun l => l ∈ done) := by
      intro l
      rw [List.mem_filter, decide_eq_true_iff]
      exact ⟨fun hl => ⟨hmem l (List.mem_append_left _ hl), hl⟩, And.right⟩
    have hlisted : (labels.filter (fun l => l ∈ done)).Sublist labels := List.filter_sublist
    rw [resolve_congr (hother.sublist (((List.sublist_append_left ..).trans hsublist).map _))
      (hnames.sublist (hlisted.map _)) hsame]
    refine hindep _ hlisted label (hmem label List.mem_concat_self) ?_
    rw [← hsame]
    exact fun hl => (List.nodup_append.mp hnodup).2.2 label hl label List.mem_cons_self rfl
  have hresolve : resolve other (cut labels text.toList) = resolve labels (cut labels text.toList) :=
    resolve_congr hother hnames (fun _ => hperm.mem_iff) _
  rw [substitute, resolvedAtOnce, ← hresolve,
    ← substituteChars_written (fun l hl => hlabels l (hperm.mem_iff.mp hl)) hpieces hbeside,
    written_cut]

end AnyOrder

/-! ### Without braces -/

/-- A text without braces. -/
structure Unbraced (text : String) : Prop where
  opening : '\x7b' ∉ text.toList
  closing : '\x7d' ∉ text.toList

instance (text : String) : Decidable (Unbraced text) :=
  decidable_of_iff ('\x7b' ∉ text.toList ∧ '\x7d' ∉ text.toList)
    ⟨fun h => ⟨h.1, h.2⟩, fun h => ⟨h.opening, h.closing⟩⟩

/-- Shorter by characters that are no braces. -/
inductive Thinned : List Char → List Char → Prop where
  | nil : Thinned [] []
  | keep (c : Char) {xs ys : List Char} : Thinned xs ys → Thinned (c :: xs) (c :: ys)
  | drop {c : Char} {xs ys : List Char} (hopen : c ≠ '\x7b') (hclose : c ≠ '\x7d') :
    Thinned xs ys → Thinned xs (c :: ys)

namespace Thinned

variable {xs ys zs : List Char}

theorem sublist (h : Thinned xs ys) : xs.Sublist ys := by
  induction h with
  | nil => exact List.Sublist.slnil
  | keep c _ ih => exact ih.cons_cons c
  | drop _ _ _ ih => exact ih.cons _

/-- What is put in front may be thinned out altogether. -/
theorem append_left {text : String} (htext : Unbraced text) (h : Thinned xs ys) :
    Thinned xs (text.toList ++ ys) := by
  obtain ⟨hopen, hclose⟩ := htext
  generalize text.toList = cs at hopen hclose ⊢
  induction cs with
  | nil => exact h
  | cons c cs ih =>
      rw [List.mem_cons, not_or] at hopen hclose
      exact .drop (Ne.symm hopen.1) (Ne.symm hclose.1) (ih hopen.2 hclose.2)

theorem append (zs : List Char) (h : Thinned xs ys) : Thinned (zs ++ xs) (zs ++ ys) := by
  induction zs with
  | nil => exact h
  | cons c _ ih => exact .keep c ih

/-- What is thinned out of two parts is thinned out of each. -/
theorem of_append (h : Thinned xs (ys ++ zs)) :
    ∃ front back, xs = front ++ back ∧ Thinned front ys ∧ Thinned back zs := by
  induction ys generalizing xs with
  | nil => exact ⟨[], xs, rfl, .nil, h⟩
  | cons c cs ih =>
      cases h with
      | keep _ h =>
          obtain ⟨front, back, rfl, hfront, hback⟩ := ih h
          exact ⟨c :: front, back, rfl, hfront.keep c, hback⟩
      | drop hopen hclose h =>
          obtain ⟨front, back, rfl, hfront, hback⟩ := ih h
          exact ⟨front, back, rfl, hfront.drop hopen hclose, hback⟩

/-- Braces stay. -/
theorem openMark_append (h : Thinned xs (openMark ++ ys)) :
    ∃ rest, xs = openMark ++ rest ∧ Thinned rest ys := by
  cases h with
  | drop hopen _ _ => exact absurd rfl hopen
  | keep _ h =>
      cases h with
      | drop hopen _ _ => exact absurd rfl hopen
      | keep _ h => exact ⟨_, rfl, h⟩

theorem closeMark_append (h : Thinned xs (closeMark ++ ys)) :
    ∃ rest, xs = closeMark ++ rest ∧ Thinned rest ys := by
  cases h with
  | drop _ hclose _ => exact absurd rfl hclose
  | keep _ h =>
      cases h with
      | drop _ hclose _ => exact absurd rfl hclose
      | keep _ h => exact ⟨_, rfl, h⟩

/-- Where an invocation is thinned, an invocation is left. -/
theorem invocation {name : String} (hname : Unbraced name) (h : Thinned xs ys)
    (hoccurs : invocationOf name <:+: ys) :
    ∃ other, Unbraced other ∧ invocationOf other <:+: xs := by
  obtain ⟨front, back, rfl⟩ := hoccurs
  rw [List.append_assoc, invocationOf, List.append_assoc, List.append_assoc] at h
  obtain ⟨front', opened, rfl, -, hopened⟩ := h.of_append
  obtain ⟨named, rfl, hnamed⟩ := hopened.openMark_append
  obtain ⟨middle, closed, rfl, hmiddle, hclosed⟩ := hnamed.of_append
  obtain ⟨back', rfl, -⟩ := hclosed.closeMark_append
  refine ⟨String.ofList middle, ⟨?_, ?_⟩, front', back', ?_⟩
  · rw [String.toList_ofList]
    exact fun hmem => hname.opening (hmiddle.sublist.subset hmem)
  · rw [String.toList_ofList]
    exact fun hmem => hname.closing (hmiddle.sublist.subset hmem)
  · simp only [invocationOf, String.toList_ofList, List.append_assoc]

end Thinned

section Plain

variable {labels done : List Label} {pieces : List Piece}

theorem Unbraced.isSealed {name : String} (h : Unbraced name) : Sealed name where
  single := (hasInvocation_eq_false_iff name).mpr
    ⟨fun hoccurs => h.opening (hoccurs.subset List.mem_cons_self),
      fun hoccurs => h.closing (hoccurs.subset List.mem_cons_self)⟩
  first := fun hhead => h.opening (List.mem_of_head? hhead)
  last := fun hlast => h.closing (List.mem_of_getLast? hlast)

/-- Taking out the invocations leaves less than resolving some of them first, but by no
braces if what is put in for them has none. -/
theorem thinned_resolve (hdone : ∀ label ∈ done, Unbraced label.text) (pieces : List Piece) :
    Thinned (beside pieces) (beside (resolve done pieces)) := by
  induction pieces with
  | nil => exact .nil
  | cons piece rest ih =>
      rw [resolve, List.map_cons, ← resolve]
      cases piece with
      | literal text => exact ih.append _
      | invocation name =>
          rw [Piece.resolve, beside_invocation]
          cases hfind : done.find? (fun label => label.name == name) with
          | none => exact ih
          | some label => exact ih.append_left (hdone label (List.mem_of_find?_eq_some hfind))

/-- A text that has no further invocation when those of the labels are taken out. -/
def Flat (labels : List Label) (text : String) : Prop :=
  ∀ name, Unbraced name → ¬invocationOf name <:+: beside (cut labels text.toList)

/-- Labels without braces are independent in a flat text. -/
theorem independent_of_unbraced {text : String}
    (hlabels : ∀ label ∈ labels, Unbraced label.name ∧ Unbraced label.text)
    (hflat : Flat labels text) : Independent labels text := by
  intro done hdone label hlabel _ hoccurs
  have hthinned := thinned_resolve (fun l hl => (hlabels l (hdone.subset hl)).2)
    (cut labels text.toList)
  obtain ⟨other, hother, hfound⟩ := hthinned.invocation (hlabels label hlabel).1 hoccurs
  exact hflat other hother hfound

/-- Labels resolve in any order as they do at once, if they are independent. Without braces in
the labels it is enough to look at the text once: they are if taking out their invocations
does not leave one. -/
theorem substitute_anyOrder (labels : List Label) (text : String)
    (hnames : (labels.map Label.name).Nodup) :
    ((∀ label ∈ labels, Sealed label.name) → Independent labels text →
      ∀ other, other.Perm labels → substitute other text = resolvedAtOnce labels text) ∧
    ((∀ label ∈ labels, Unbraced label.name ∧ Unbraced label.text) → Flat labels text →
      ∀ other, other.Perm labels → substitute other text = resolvedAtOnce labels text) := by
  have hany : (∀ label ∈ labels, Sealed label.name) → Independent labels text →
      ∀ other, other.Perm labels → substitute other text = resolvedAtOnce labels text :=
    fun hlabels hindep _ hperm => substitute_of_independent hnames hlabels hindep hperm
  refine ⟨hany, fun hlabels hflat => ?_⟩
  exact hany (fun label hlabel => (hlabels label hlabel).1.isSealed)
    (independent_of_unbraced hlabels hflat)

/-- Braces in what is put in do no harm where they do not come together with others. -/
theorem substitute_anyOrder_set :
    let labels : List Label := [⟨"member", "x\x7d"⟩, ⟨"set", "\x7bx, y"⟩]
    let text := String.ofList
      (invocationOf "member" ++ [' ', '|'] ++ invocationOf "set" ++ ['\x7d'])
    (labels.map Label.name).Nodup ∧ (∀ label ∈ labels, Sealed label.name) ∧ Independent labels text ∧
      substitute labels.reverse text = resolvedAtOnce labels text ∧
      resolvedAtOnce labels text = "x\x7d |\x7bx, y\x7d" := by
  intro labels text
  have hnames : (labels.map Label.name).Nodup := by decide
  have hlabels : ∀ label ∈ labels, Sealed label.name := by
    intro label hlabel
    have hunbraced : ∀ label ∈ labels, Unbraced label.name := by decide
    exact (hunbraced label hlabel).isSealed
  have hindep : Independent labels text := by decide +kernel
  exact ⟨hnames, hlabels, hindep,
    (substitute_anyOrder labels text hnames).1 hlabels hindep _ (List.reverse_perm _),
    by decide +kernel⟩

/-- Labels that resolve to each other's names, and one of them invoked within the marks of
another invocation. -/
def nestedLabels : List Label := [⟨"a", "b"⟩, ⟨"b", "c"⟩]

def nestedText : String := String.ofList (openMark ++ invocationOf "a" ++ closeMark)

/-- The order of labels does matter, for labels that are accepted and without braces even.
What is put in for the first label is taken for the name of the second, which is invoked
nowhere in the text. -/
theorem order_matters :
    (∀ label ∈ nestedLabels, Props.labelProblems label = []) ∧
      (nestedLabels.map Label.name).Nodup ∧
      substitute nestedLabels nestedText = "c" ∧
      substitute nestedLabels.reverse nestedText = String.ofList (invocationOf "b") := by
  refine ⟨?_, by decide, by decide +kernel, by decide +kernel⟩
  intro label hlabel
  rcases List.mem_cons.mp hlabel with rfl | hlabel
  · rfl
  · rw [List.mem_singleton.mp hlabel]
    rfl

/-- The text of a piece or the name that it invokes. -/
def Piece.content : Piece → String
  | .literal text => text
  | .invocation name => name

theorem content_resolve_unbraced (hdone : ∀ label ∈ done, Unbraced label.text)
    (hpieces : ∀ piece ∈ pieces, Unbraced piece.content) :
    ∀ piece ∈ resolve done pieces, Unbraced piece.content := by
  intro resolved hresolved
  obtain ⟨piece, hpiece, rfl⟩ := List.mem_map.mp hresolved
  cases piece with
  | literal text => exact hpieces _ hpiece
  | invocation name =>
      rw [Piece.resolve]
      cases hfind : done.find? (fun label => label.name == name) with
      | none => exact hpieces _ hpiece
      | some label => exact hdone label (List.mem_of_find?_eq_some hfind)

/-- Beside unbraced pieces nothing is invoked. -/
theorem not_invocation_infix_beside (hpieces : ∀ piece ∈ pieces, Unbraced piece.content)
    (name : String) : ¬invocationOf name <:+: beside pieces := by
  intro hoccurs
  have hmem : '\x7b' ∈ beside pieces := hoccurs.subset List.mem_cons_self
  obtain ⟨piece, hpiece, hmem⟩ := List.mem_flatMap.mp hmem
  cases piece with
  | literal text => exact (hpieces _ hpiece).opening hmem
  | invocation name => exact List.not_mem_nil hmem

/-- A text that is put together from pieces without braces is resolved piece by piece: the
invocation of a label becomes its text, an invocation of another name is left as it is
written, and so is everything else. Of labels of one name the first counts. -/
theorem substitute_written
    (hlabels : ∀ label ∈ labels, Unbraced label.name ∧ Unbraced label.text)
    (hpieces : ∀ piece ∈ pieces, Unbraced piece.content) :
    substitute labels (String.ofList (written pieces)) =
      String.ofList (written (resolve labels pieces)) := by
  have hsealed : ∀ name, .invocation name ∈ pieces → Sealed name := fun _ hname =>
    (hpieces _ hname).isSealed
  have hbeside : ∀ done label, done ++ [label] <+: labels →
      ¬label.invocation <:+: beside (resolve done pieces) := by
    intro done label hstarts
    have hdone : ∀ l ∈ done, Unbraced l.text := fun l hl =>
      (hlabels l (hstarts.subset (List.mem_append_left _ hl))).2
    exact not_invocation_infix_beside (content_resolve_unbraced hdone hpieces) label.name
  rw [substitute, String.toList_ofList,
    substituteChars_written (fun l hl => (hlabels l hl).1.isSealed) hsealed hbeside]

/-- A name in front of another one, a text that is the name of another label, and a name
that no label has. -/
theorem substitute_written_greeting :
    let labels : List Label := [⟨"comp", "team"⟩, ⟨"company", "Acme"⟩, ⟨"team", "tools"⟩]
    let pieces : List Piece := [.literal "At ", .invocation "company", .invocation "comp",
      .literal " with ", .invocation "", .invocation "team"]
    (∀ label ∈ labels, Unbraced label.name ∧ Unbraced label.text) ∧
      (∀ piece ∈ pieces, Unbraced piece.content) ∧
      substitute labels (String.ofList (written pieces)) =
        String.ofList (written (resolve labels pieces)) ∧
      resolve labels pieces = [.literal "At ", .literal "Acme", .literal "team",
        .literal " with ", .invocation "", .literal "tools"] := by
  intro labels pieces
  have hlabels : ∀ label ∈ labels, Unbraced label.name ∧ Unbraced label.text := by decide
  have hpieces : ∀ piece ∈ pieces, Unbraced piece.content := by decide
  exact ⟨hlabels, hpieces, substitute_written hlabels hpieces, by decide⟩

end Plain

end Labels

end Vitae
