import Mathlib.Data.List.Infix
import Mathlib.Data.List.Nodup
import Vitae.Document.Labels
import Vitae.Proofs.Text.Occurrence

/-!
# Texts in Pieces

A text with labels as it is thought of, invocations and what stands beside them, against
the text that is searched for one label after the other.

Resolving a label turns its invocations into pieces that stand beside the others, and does
nothing else, unless the characters beside the invocations make up an invocation of the
label themselves (`replaceAll_written`). Whether they do can be asked with all invocations
taken out: one that is still there begins and ends with pairs of braces, so nothing that
goes across it is an invocation as well (`prefix_beside`).

This needs names with no pair of braces within and no brace at an end that could be taken
for one of a mark (`Sealed`). Pairs are refused by the check of labels. Braces at the ends
are not, and then the same characters can invoke two names: an `a` between the marks with
one more closing brace behind it invokes `a`, and also the name that ends with the brace.

## Main definitions

* `invocationOf`: How a name is invoked.
* `Sealed`: A name that leaves no doubt where its invocation begins and ends.
* `Piece`, `written`, `beside`, `resolve`: Texts in pieces.

## Theorems

* `prefix_beside`, `invocation_prefix_beside`: What begins beside the invocations stays
  beside them.
* `name_eq_of_starts`: The only invocation that begins in an invocation is itself.
* `replaceAll_written`: Resolving one label, piece by piece.
* `substituteChars_written`: Resolving one label after the other, piece by piece.
* `resolve_congr`: Only which labels are resolved matters.
-/

namespace Vitae

namespace Labels

/-- How a name is invoked. -/
def invocationOf (name : String) : List Char :=
  openMark ++ name.toList ++ closeMark

/-- A name that leaves no doubt where its invocation begins and ends: it has no pair of
braces, and no brace at an end that could be taken for one of the marks. -/
structure Sealed (name : String) : Prop where
  single : hasInvocation name = false
  first : name.toList.head? ≠ some '\x7b'
  last : name.toList.getLast? ≠ some '\x7d'

/-- A piece of a text. -/
inductive Piece where
  | literal (text : String)
  | invocation (name : String)
deriving DecidableEq, Repr

namespace Piece

/-- A piece as it is written. -/
def written : Piece → List Char
  | .literal text => text.toList
  | .invocation name => invocationOf name

/-- What is left of a piece when invocations are taken out. -/
def beside : Piece → List Char
  | .literal text => text.toList
  | .invocation _ => []

/-- A piece after labels have been resolved. An invocation of another name is left as it
is. -/
def resolve (labels : List Label) : Piece → Piece
  | .literal text => .literal text
  | .invocation name =>
    match labels.find? (fun label => label.name == name) with
    | some label => .literal label.text
    | none => .invocation name

end Piece

/-- A text in pieces as it is written. -/
def written (pieces : List Piece) : List Char :=
  pieces.flatMap Piece.written

/-- What stands beside the invocations of a text in pieces. -/
def beside (pieces : List Piece) : List Char :=
  pieces.flatMap Piece.beside

/-- A text in pieces after labels have been resolved. -/
def resolve (labels : List Label) (pieces : List Piece) : List Piece :=
  pieces.map (Piece.resolve labels)

/-! ### Marks -/

section Marks

variable {name : String} {u x : List Char}

/-- A pair of one character that goes across a join has another character in front of the
rest. -/
theorem pair_infix_append {a c : Char} (hne : c ≠ a) (xs ys : List Char)
    (h : [a, a] <:+: xs ++ c :: ys) : [a, a] <:+: xs ∨ [a, a] <:+: c :: ys := by
  induction xs with
  | nil => exact .inr h
  | cons b bs ih =>
      rcases List.infix_cons_iff.mp h with hstarts | hoccurs
      · refine .inl ?_
        obtain ⟨rfl, htail⟩ := List.cons_prefix_cons.mp hstarts
        cases bs with
        | nil => exact absurd (List.cons_prefix_cons.mp htail).1.symm hne
        | cons d ds =>
            obtain ⟨rfl, -⟩ := List.cons_prefix_cons.mp htail
            exact ⟨[], ds, rfl⟩
      · exact (ih hoccurs).imp_left fun hbs => hbs.trans (List.suffix_cons b bs).isInfix

theorem hasInvocation_eq_false_iff (text : String) :
    hasInvocation text = false ↔ ¬openMark <:+: text.toList ∧ ¬closeMark <:+: text.toList := by
  rw [hasInvocation, Bool.or_eq_false_iff, ← Bool.not_eq_true, ← Bool.not_eq_true,
    Text.contains_iff, Text.contains_iff]

theorem not_openMark_infix (h : Sealed name) : ¬openMark <:+: name.toList :=
  ((hasInvocation_eq_false_iff name).mp h.single).1

theorem not_closeMark_infix (h : Sealed name) : ¬closeMark <:+: name.toList :=
  ((hasInvocation_eq_false_iff name).mp h.single).2

/-- Behind the first brace of an invocation no other one opens, not even together with a
brace that follows. -/
theorem Sealed.opening (h : Sealed name) :
    ¬openMark <:+: (invocationOf name).tail ++ ['\x7b'] := by
  intro hoccurs
  have hoccurs : openMark <:+: '\x7b' :: (name.toList ++ '\x7d' :: ['\x7d', '\x7b']) := by
    simpa [invocationOf, openMark, closeMark] using hoccurs
  rcases List.infix_cons_iff.mp hoccurs with hstarts | hoccurs
  · -- The name would begin with the second brace of the pair.
    have hhead := (List.cons_prefix_cons.mp hstarts).2
    have hfirst := h.first
    cases hname : name.toList with
    | nil =>
        rw [hname] at hhead
        exact absurd (List.cons_prefix_cons.mp hhead).1 (by decide)
    | cons c cs =>
        rw [hname] at hhead hfirst
        exact hfirst (congrArg some (List.cons_prefix_cons.mp hhead).1.symm)
  · rcases pair_infix_append (by decide) _ _ hoccurs with hoccurs | hoccurs
    · exact not_openMark_infix h hoccurs
    · exact absurd hoccurs (by decide)

/-- The marks behind a name are the first that close. -/
theorem Sealed.closing (h : Sealed name) : ¬closeMark <:+: name.toList ++ ['\x7d'] := by
  intro hoccurs
  rcases List.infix_concat_iff.mp hoccurs with hsuffix | hoccurs
  · -- The name would end with the first brace of the pair.
    obtain ⟨front, hfront⟩ := hsuffix
    have hname : front ++ ['\x7d'] = name.toList :=
      List.append_cancel_right ((List.append_assoc front ['\x7d'] ['\x7d']).trans hfront)
    refine h.last ?_
    rw [← hname, List.getLast?_concat]
  · exact not_closeMark_infix h hoccurs

/-- A text that an opening pair of braces begins with has the pair, or the first brace of
it at its end. -/
theorem openMark_infix_of_starts {s : List Char} (hs : s ≠ []) (h : openMark <+: s ++ x) :
    openMark <:+: s ++ ['\x7b'] := by
  match s with
  | [] => exact absurd rfl hs
  | [c] =>
      obtain ⟨rfl, -⟩ := List.cons_prefix_cons.mp h
      exact List.infix_refl _
  | c :: d :: rest =>
      obtain ⟨rfl, htail⟩ := List.cons_prefix_cons.mp h
      obtain ⟨rfl, -⟩ := List.cons_prefix_cons.mp htail
      exact ⟨[], rest ++ ['\x7b'], rfl⟩

/-- Two invocations at the same place are of the same name. -/
theorem eq_of_closed {xs ys : List Char} (hxs : ¬closeMark <:+: xs ++ ['\x7d'])
    (hys : ¬closeMark <:+: ys ++ ['\x7d'])
    (h : xs ++ closeMark <+: ys ++ closeMark ++ x) : xs = ys := by
  induction xs generalizing ys with
  | nil =>
      match ys with
      | [] => rfl
      | [d] =>
          obtain ⟨rfl, -⟩ := List.cons_prefix_cons.mp h
          exact absurd (List.infix_refl _) hys
      | d :: e :: rest =>
          obtain ⟨rfl, htail⟩ := List.cons_prefix_cons.mp h
          obtain ⟨rfl, -⟩ := List.cons_prefix_cons.mp htail
          exact absurd ⟨[], rest ++ ['\x7d'], rfl⟩ hys
  | cons c cs ih =>
      cases ys with
      | nil =>
          obtain ⟨rfl, htail⟩ := List.cons_prefix_cons.mp h
          cases cs with
          | nil => exact absurd (List.infix_refl _) hxs
          | cons d ds =>
              obtain ⟨rfl, -⟩ := List.cons_prefix_cons.mp htail
              exact absurd ⟨[], ds ++ ['\x7d'], rfl⟩ hxs
      | cons d ds =>
          obtain ⟨rfl, htail⟩ := List.cons_prefix_cons.mp h
          rw [ih (fun hcs => hxs (hcs.trans (List.suffix_cons c _).isInfix))
            (fun hds => hys (hds.trans (List.suffix_cons c _).isInfix)) htail]

end Marks

/-! ### One label -/

section Piecewise

variable {pieces : List Piece} {label : Label}

@[simp]
theorem written_literal (text : String) (pieces : List Piece) :
    written (.literal text :: pieces) = text.toList ++ written pieces :=
  rfl

@[simp]
theorem written_invocation (name : String) (pieces : List Piece) :
    written (.invocation name :: pieces) = invocationOf name ++ written pieces :=
  rfl

@[simp]
theorem beside_literal (text : String) (pieces : List Piece) :
    beside (.literal text :: pieces) = text.toList ++ beside pieces :=
  rfl

@[simp]
theorem beside_invocation (name : String) (pieces : List Piece) :
    beside (.invocation name :: pieces) = beside pieces :=
  rfl

/-- A text without an opening pair of braces does not go across an invocation, so where it
stands in front it still does when invocations are taken out. -/
theorem prefix_beside (pieces : List Piece) {u : List Char} (hu : ¬openMark <:+: u ++ ['\x7b'])
    (h : u <+: written pieces) : u <+: beside pieces := by
  induction pieces generalizing u with
  | nil => exact h
  | cons piece rest ih =>
      cases piece with
      | literal text =>
          rw [written_literal] at h
          rw [beside_literal]
          rcases List.prefix_or_prefix_of_prefix h (List.prefix_append ..) with hle | ⟨v, rfl⟩
          · exact hle.trans (List.prefix_append ..)
          · rw [List.prefix_append_right_inj] at h ⊢
            refine ih (fun hoccurs => hu (hoccurs.trans ?_)) h
            rw [List.append_assoc]
            exact (List.suffix_append ..).isInfix
      | invocation name =>
          -- The invocation opens with a pair, so only the empty text ends in front of it.
          cases u with
          | nil => exact List.nil_prefix
          | cons c cs =>
              obtain ⟨more, hmore⟩ := h
              refine absurd (openMark_infix_of_starts (x := more) (List.cons_ne_nil c cs) ?_) hu
              rw [hmore, written_invocation, invocationOf, List.append_assoc, List.append_assoc]
              exact List.prefix_append ..

/-- An invocation that begins in a literal is one with the other invocations taken out. -/
theorem invocation_prefix_beside {name : String} (hname : Sealed name) {s : List Char}
    (hs : s ≠ []) (h : invocationOf name <+: s ++ written pieces) :
    invocationOf name <+: s ++ beside pieces := by
  obtain ⟨c, cs, rfl⟩ := List.exists_cons_of_ne_nil hs
  -- The first character of the invocation stays where it is; what follows has no pair.
  obtain ⟨hc, htail⟩ := List.cons_prefix_cons.mp h
  refine List.cons_prefix_cons.mpr ⟨hc, ?_⟩
  have hliteral := prefix_beside (.literal (String.ofList cs) :: pieces) hname.opening
  simp only [written_literal, beside_literal, String.toList_ofList] at hliteral
  exact hliteral htail

/-- Within an invocation and behind its first character, no other one begins. -/
theorem not_prefix_of_suffix_tail {name : String} (hname : Sealed name) {s x : List Char}
    (hs : s ≠ []) (hsuffix : s <:+ (invocationOf name).tail) : ¬openMark <+: s ++ x := by
  intro hstarts
  obtain ⟨front, hfront⟩ := hsuffix
  refine hname.opening ((openMark_infix_of_starts hs hstarts).trans ⟨front, [], ?_⟩)
  rw [← hfront, List.append_nil, List.append_assoc]

/-- The only invocation that begins in an invocation is itself. -/
theorem name_eq_of_starts {name other : String} (hname : Sealed name)
    (hother : Sealed other) {s x : List Char} (hs : s ≠ []) (hsuffix : s <:+ invocationOf other)
    (h : invocationOf name <+: s ++ x) : name = other := by
  rcases List.suffix_cons_iff.mp hsuffix with rfl | htail
  · have hsame : openMark ++ (name.toList ++ closeMark) <+:
        openMark ++ (other.toList ++ closeMark ++ x) := h
    rw [List.prefix_append_right_inj] at hsame
    exact String.toList_injective (eq_of_closed hname.closing hother.closing hsame)
  · refine absurd (List.IsPrefix.trans ?_ h) (not_prefix_of_suffix_tail hother hs htail)
    rw [invocationOf, List.append_assoc]
    exact List.prefix_append ..

/-- Resolving one label, piece by piece: its invocations become literals and all else is
left alone, unless the pieces make up an invocation of it with the others taken out. -/
theorem replaceAll_written (hlabel : Sealed label.name)
    (hpieces : ∀ name, .invocation name ∈ pieces → Sealed name)
    (hbeside : ¬label.invocation <:+: beside pieces) :
    Text.replaceAll label.invocation label.text.toList (written pieces) =
      written (resolve [label] pieces) := by
  induction pieces with
  | nil => exact Text.replaceAll_nil _ _
  | cons piece rest ih =>
      have hrest := ih fun name hname => hpieces name (List.mem_cons_of_mem piece hname)
      rw [resolve, List.map_cons, ← resolve]
      cases piece with
      | literal text =>
          rw [beside_literal] at hbeside
          have hnone : ∀ s, s ≠ [] → s <:+ text.toList →
              ¬label.invocation <+: s ++ written rest := by
            intro s hs ⟨front, hfront⟩ hstarts
            refine hbeside ((invocation_prefix_beside hlabel hs hstarts).isInfix.trans ?_)
            rw [← hfront, List.append_assoc]
            exact (List.suffix_append ..).isInfix
          rw [written_literal, Text.replaceAll_append hnone,
            hrest fun hoccurs => hbeside (hoccurs.trans (List.suffix_append ..).isInfix)]
          rfl
      | invocation name =>
          rw [written_invocation, Piece.resolve, List.find?_singleton]
          by_cases hname : label.name = name
          · have hne : label.invocation ≠ [] := List.cons_ne_nil _ _
            rw [← hname, beq_self_eq_true, if_pos rfl, written_literal, ← hrest hbeside]
            exact Text.replaceAll_needle_append hne _
          · have hnone : ∀ s, s ≠ [] → s <:+ invocationOf name →
                ¬label.invocation <+: s ++ written rest := fun s hs hsuffix hstarts =>
              hname (name_eq_of_starts hlabel (hpieces name List.mem_cons_self) hs hsuffix
                hstarts)
            rw [beq_false_of_ne hname, if_neg Bool.false_ne_true, written_invocation,
              Text.replaceAll_append hnone, hrest hbeside]

end Piecewise

/-! ### One label after the other -/

section Several

variable {pieces : List Piece} {labels other done : List Label} {text : String}

theorem resolve_nil (pieces : List Piece) : resolve [] pieces = pieces := by
  refine (List.map_congr_left fun piece _ => ?_).trans (List.map_id pieces)
  cases piece <;> rfl

/-- Resolving one more label. -/
theorem resolve_concat (done : List Label) (label : Label) (pieces : List Piece) :
    resolve [label] (resolve done pieces) = resolve (done ++ [label]) pieces := by
  rw [resolve, resolve, resolve, List.map_map]
  refine List.map_congr_left fun piece _ => ?_
  cases piece with
  | literal text => rfl
  | invocation name =>
      simp only [Function.comp_apply, Piece.resolve, List.find?_append]
      cases done.find? (fun label => label.name == name) <;> rfl

theorem mem_of_mem_resolve {name : String} (h : .invocation name ∈ resolve done pieces) :
    .invocation name ∈ pieces := by
  obtain ⟨piece, hpiece, heq⟩ := List.mem_map.mp h
  cases piece with
  | literal text => exact absurd heq nofun
  | invocation other =>
      rw [Piece.resolve] at heq
      split at heq
      · exact absurd heq nofun
      · exact heq ▸ hpiece

/-- Resolving one label after the other, piece by piece. -/
theorem substituteChars_written (hlabels : ∀ label ∈ labels, Sealed label.name)
    (hpieces : ∀ name, .invocation name ∈ pieces → Sealed name)
    (hbeside : ∀ done label, done ++ [label] <+: labels →
      ¬label.invocation <:+: beside (resolve done pieces)) :
    substituteChars labels (written pieces) = written (resolve labels pieces) := by
  induction labels using List.reverseRecOn with
  | nil => rw [resolve_nil, substituteChars, List.foldl_nil]
  | append_singleton before label ih =>
      have hbefore := ih (fun l hl => hlabels l (List.mem_append_left _ hl))
        fun done l hl => hbeside done l (hl.trans (List.prefix_append before [label]))
      rw [substituteChars] at hbefore
      rw [substituteChars, List.foldl_append, hbefore, List.foldl_cons, List.foldl_nil,
        replaceAll_written (hlabels label List.mem_concat_self)
          (fun name hname => hpieces name (mem_of_mem_resolve hname))
          (hbeside before label (List.prefix_refl _)), resolve_concat]

/-- With different names, a label is found by its name. -/
theorem find?_name_eq_some_iff (hnames : (labels.map Label.name).Nodup) (name : String)
    (label : Label) :
    labels.find? (fun l => l.name == name) = some label ↔ label ∈ labels ∧ label.name = name := by
  constructor
  · intro h
    have hname := List.find?_some h
    exact ⟨List.mem_of_find?_eq_some h, beq_iff_eq.mp hname⟩
  · rintro ⟨hmem, rfl⟩
    cases hfind : labels.find? (fun l => l.name == label.name) with
    | none => exact absurd (List.find?_eq_none.mp hfind label hmem) (by simp)
    | some l =>
        have hname := List.find?_some hfind
        exact congrArg some (List.inj_on_of_nodup_map hnames (List.mem_of_find?_eq_some hfind) hmem
          (beq_iff_eq.mp hname))

/-- Only which labels have been resolved matters, and not in what order. -/
theorem resolve_congr (hdone : (done.map Label.name).Nodup) (hother : (other.map Label.name).Nodup)
    (h : ∀ label, label ∈ done ↔ label ∈ other) (pieces : List Piece) :
    resolve done pieces = resolve other pieces := by
  refine List.map_congr_left fun piece _ => ?_
  cases piece with
  | literal text => rfl
  | invocation name =>
      have hfind : done.find? (fun label => label.name == name) =
          other.find? (fun label => label.name == name) := by
        refine Option.ext fun label => ?_
        rw [find?_name_eq_some_iff hdone, find?_name_eq_some_iff hother, h]
      rw [Piece.resolve, Piece.resolve, hfind]

end Several

end Labels

end Vitae
