import Mathlib.Data.Finset.Card
import Vitae.Document.Source
import Vitae.Proofs.Json.Members
import Vitae.Proofs.Json.Written

/-!
# Repeats in Items

What of an item object survives when it is read, and what is remembered of the rest.

Two decoders are at work. The value of every prop but one is decoded plainly; the labels are
decoded by a reader of their own, which counts their keys on the way. Both read what is
written and forget something, so all that is to be shown is what they forget. The pairs of
the object are the common ground: the props and both lists of repeats are functions of them
(`reader_eq`), and what is said of the props is then a matter of lists of pairs, which need
not come from a text.

That a list is as long as the number of its different entries and the repeats together is
shown from the back, since whether the last entry is a repeat is decided by all others.

## Main definitions

* `occurredBefore`: The repeated entries of a list, told place by place.
* `Props.ofWritten`: The props of an object from its pairs as they are written.
* `Props.Tells`: What props have of the pairs that they were read from.

## Theorems

* `repeats_eq`: Repeats are counted place by place.
* `length_eq_card_add_repeats`: Every entry is the first of its kind or a repeat.
* `Props.counted_eq`, `Props.reader_eq`: The readers of values and of props read what is
  written.
* `Props.tells_ofWritten`: The props of an object tell its pairs.
* `Props.reader_faithful`: Reading props is plain decoding with the repeats counted.
-/

namespace Vitae

/-- The entries of a list that stand at an earlier place too, in order, each with the number
of these places. -/
def occurredBefore (keys : List String) : List (String × Nat) :=
  (keys.mapIdx (fun i key => (key, (keys.take i).count key))).filter (fun entry => entry.2 ≠ 0)

theorem repeatsAfter_eq (seen keys : List String) :
    repeatsAfter seen keys =
      (keys.mapIdx (fun i key => (key, seen.count key + (keys.take i).count key))).filter
        (fun entry => entry.2 ≠ 0) := by
  induction keys generalizing seen with
  | nil => rfl
  | cons key rest ih =>
      -- A key that moves over to those seen is still counted for all that follow.
      have hcount : ∀ (i : Nat) (other : String),
          (key :: seen).count other + (rest.take i).count other =
            seen.count other + ((key :: rest).take (i + 1)).count other := by
        intro i other
        rw [List.take_succ_cons, List.count_cons, List.count_cons]
        omega
      simp only [repeatsAfter, ih, List.mapIdx_cons, hcount]
      by_cases hseen : seen.count key = 0
      · simp [hseen]
      · simp [hseen]

/-- Repeats are counted place by place. -/
theorem repeats_eq (keys : List String) : repeats keys = occurredBefore keys := by
  simp [repeats, repeatsAfter_eq, occurredBefore]

example : occurredBefore ["a", "b", "a", "a"] = [("a", 1), ("a", 2)] := by decide

theorem repeatsAfter_append (seen front back : List String) :
    repeatsAfter seen (front ++ back) =
      repeatsAfter seen front ++ repeatsAfter (front.reverse ++ seen) back := by
  induction front generalizing seen with
  | nil => rfl
  | cons key rest ih =>
      simp only [List.cons_append, repeatsAfter, ih, List.reverse_cons, List.append_assoc,
        List.nil_append]
      split <;> rfl

/-- The last entry is a repeat if it stands at an earlier place too. -/
theorem repeats_concat (keys : List String) (key : String) :
    repeats (keys ++ [key]) =
      repeats keys ++ if key ∈ keys then [(key, keys.count key)] else [] := by
  rw [repeats, repeatsAfter_append]
  simp [repeats, repeatsAfter, List.count_eq_zero]

/-- Every entry is the first of its kind or a repeat. -/
theorem length_eq_card_add_repeats (keys : List String) :
    keys.length = keys.toFinset.card + (repeats keys).length := by
  induction keys using List.reverseRecOn with
  | nil => rfl
  | append_singleton keys key ih =>
      have hset : (keys ++ [key]).toFinset = insert key keys.toFinset := by
        ext other
        simp
      rw [repeats_concat, hset, List.length_append, List.length_append, ih]
      by_cases hkey : key ∈ keys
      · rw [if_pos hkey, Finset.insert_eq_of_mem (List.mem_toFinset.mpr hkey),
          List.length_singleton, List.length_singleton, Nat.add_assoc]
      · rw [if_neg hkey, Finset.card_insert_of_notMem (fun h => hkey (List.mem_toFinset.mp h)),
          List.length_nil, List.length_singleton]
        omega

/-! ### Props from what is written -/

/-- A value and its repeated keys if it is an object. -/
def Counted.ofWritten (w : Json.Written) : Counted where
  value := w.value
  repeats :=
    match w.pairs? with
    | some pairs => Vitae.repeats (pairs.map Prod.fst)
    | none => []

/-- What the value of a prop is read as. -/
def Counted.ofMember (key : String) (w : Json.Written) : Counted :=
  if key = labelsKey then .ofWritten w else ⟨w.value, []⟩

theorem Counted.value_ofMember (key : String) (w : Json.Written) :
    (ofMember key w).value = w.value := by
  unfold ofMember
  split <;> rfl

namespace Props

/-- Props from the pairs of an object as they are written. -/
def ofWritten (pairs : List (String × Json.Written)) : Props :=
  ofMembers (pairs.map (fun pair => (pair.1, Counted.ofMember pair.1 pair.2)))

theorem counted_object (pairs : List (String × Json.Written)) :
    Counted.ofWritten (.object pairs) =
      ⟨.object (Json.Members.ofPairs (pairs.map (fun pair => (pair.1, pair.2.value)))),
        repeats ((pairs.map (fun pair => (pair.1, pair.2.value))).map Prod.fst)⟩ := by
  rw [Counted.ofWritten, Json.Written.value_object, List.map_map]
  rfl

/-- The decoder that counts repeats reads what is written as well. -/
theorem counted_eq : counted = Json.Reader.map Counted.ofWritten Json.written := by
  funext depth bytes
  unfold counted
  split
  · rename_i text hskip
    rw [Json.Reader.map, Json.written_of_brace hskip, ← Json.Reader.map, ← Json.nested_map]
    refine congrFun (congrFun (congrArg Json.nested ?_) depth) text
    -- Behind the brace both read the same pairs.
    funext inner text
    rw [Json.value_eq, Json.objectBody_map fun _ => Json.Written.value]
    simp only [Json.Reader.map, bind_map_left]
    cases Json.objectBody (fun _ => Json.written) inner text with
    | error fault => rfl
    | ok read =>
        simp only [Json.map_ok, Prod.map, counted_object]
        rfl
  · -- Nothing else has keys, so nothing repeats.
    rename_i hno
    rw [Json.value_eq, Json.Reader.map, Json.Reader.map]
    cases hread : Json.written depth bytes with
    | error fault => rfl
    | ok read =>
        have hnone := Json.pairs?_of_written hno hread
        rw [Json.map_ok, Json.map_ok, Prod.map, Prod.map, Counted.ofWritten, hnone]
        rfl

theorem valueOf_eq (key : String) :
    valueOf key = Json.Reader.map (Counted.ofMember key) Json.written := by
  unfold valueOf
  by_cases hkey : key = labelsKey
  · have hread : Counted.ofMember key = Counted.ofWritten := funext fun w => if_pos hkey
    rw [if_pos hkey, counted_eq, hread]
  · have hread : Counted.ofMember key = fun w => ⟨w.value, []⟩ := funext fun w => if_neg hkey
    funext depth bytes
    rw [if_neg hkey, Json.value_eq, hread, Json.Reader.map, Json.Reader.map]
    cases Json.written depth bytes <;> rfl

/-- Props are read from the pairs of an object as they are written. -/
theorem reader_eq (expected : String) :
    reader expected =
      Json.Reader.map ofWritten (Json.membersOf expected fun _ => Json.written) := by
  have hmember : valueOf = fun key => Json.Reader.map (Counted.ofMember key) Json.written :=
    funext valueOf_eq
  funext depth bytes
  rw [reader, hmember, Json.membersOf_map expected Counted.ofMember, Json.Reader.map,
    Json.Reader.map]
  cases Json.membersOf expected (fun _ => Json.written) depth bytes <;> rfl

theorem reader_eq_ok_iff (expected : String) {depth : Nat} {bytes rest : Bytes} {props : Props} :
    reader expected depth bytes = .ok (props, rest) ↔
      ∃ pairs, Json.written depth bytes = .ok (.object pairs, rest) ∧ props = ofWritten pairs := by
  simp only [Json.written_eq_ok_object_iff expected, reader_eq, Json.Reader.map]
  cases Json.membersOf expected (fun _ => Json.written) depth bytes with
  | error fault =>
      refine iff_of_false (fun h => by cases h) ?_
      rintro ⟨pairs, h, -⟩
      cases h
  | ok read =>
      rw [Json.map_ok]
      constructor
      · intro h
        cases h
        exact ⟨read.1, rfl, rfl⟩
      · rintro ⟨pairs, h, rfl⟩
        cases h
        rfl

/-- What props have of the pairs of an object as they are written. -/
structure Tells (props : Props) (pairs : List (String × Json.Written)) : Prop where
  /-- The props are the members of the plain value. -/
  plain : (Json.Written.object pairs).value = .object props.members
  /-- Every prop has the value that it is given last. -/
  last : ∀ key, props.members.get? key =
    (Json.Members.last? pairs key).map Json.Written.value
  keys : props.repeatedKeys = occurredBefore (pairs.map Prod.fst)
  total : pairs.length = (pairs.map Prod.fst).toFinset.card + props.repeatedKeys.length
  labels : ∀ inner, Json.Members.last? pairs labelsKey = some (.object inner) →
    props.repeatedLabels = occurredBefore (inner.map Prod.fst) ∧
      inner.length = (inner.map Prod.fst).toFinset.card + props.repeatedLabels.length
  unlabelled : (∀ inner, Json.Members.last? pairs labelsKey ≠ some (.object inner)) →
    props.repeatedLabels = []

theorem repeatedLabels_ofMembers (members : List (String × Counted)) :
    (ofMembers members).repeatedLabels =
      ((Json.Members.last? members labelsKey).map Counted.repeats).getD [] := by
  rw [ofMembers, Json.Members.last?]
  cases (members.filter (fun m => m.1 == labelsKey)).getLast? <;> rfl

/-- The repeats of the labels are those of the labels that are given last. -/
theorem repeatedLabels_ofWritten (pairs : List (String × Json.Written)) :
    (ofWritten pairs).repeatedLabels =
      match (Json.Members.last? pairs labelsKey).bind Json.Written.pairs? with
      | some inner => repeats (inner.map Prod.fst)
      | none => [] := by
  have hread : Counted.ofMember labelsKey = Counted.ofWritten := funext fun w => if_pos rfl
  rw [ofWritten, repeatedLabels_ofMembers, Json.Members.last?_map Counted.ofMember, hread]
  cases Json.Members.last? pairs labelsKey <;> rfl

theorem members_ofWritten (pairs : List (String × Json.Written)) :
    (ofWritten pairs).members =
      Json.Members.ofPairs (pairs.map (fun pair => (pair.1, pair.2.value))) := by
  simp only [ofWritten, ofMembers, List.map_map, Function.comp_def, Counted.value_ofMember]

theorem repeatedKeys_ofWritten (pairs : List (String × Json.Written)) :
    (ofWritten pairs).repeatedKeys = repeats (pairs.map Prod.fst) := by
  simp only [ofWritten, ofMembers, List.map_map, Function.comp_def]

/-- The props of an object tell its pairs, whatever they are. -/
theorem tells_ofWritten (pairs : List (String × Json.Written)) :
    (ofWritten pairs).Tells pairs where
  plain := by
    rw [members_ofWritten, Json.Written.value_object]
  last key := by
    rw [members_ofWritten, Json.Members.get?_ofPairs,
      Json.Members.last?_map fun _ => Json.Written.value]
  keys := by
    rw [repeatedKeys_ofWritten, repeats_eq]
  total := by
    have hlength := length_eq_card_add_repeats (pairs.map Prod.fst)
    rwa [List.length_map, ← repeatedKeys_ofWritten] at hlength
  labels inner hinner := by
    have hrepeats : (ofWritten pairs).repeatedLabels = repeats (inner.map Prod.fst) := by
      rw [repeatedLabels_ofWritten, hinner]
      rfl
    have hlength := length_eq_card_add_repeats (inner.map Prod.fst)
    rw [List.length_map, ← hrepeats] at hlength
    exact ⟨by rw [hrepeats, repeats_eq], hlength⟩
  unlabelled hnone := by
    have hpairs : (Json.Members.last? pairs labelsKey).bind Json.Written.pairs? = none := by
      refine Option.bind_eq_none_iff.mpr fun w hw => ?_
      cases w with
      | object inner => exact absurd hw (hnone inner)
      | _ => rfl
    rw [repeatedLabels_ofWritten, hpairs]

/-- A plain value is an object exactly if props can be read, and then its members are the
props. -/
theorem value_eq_ok_object_iff (expected : String) {depth : Nat} {bytes rest : Bytes}
    {members : Json.Members Json.Value} :
    Json.value depth bytes = .ok (.object members, rest) ↔
      ∃ props, reader expected depth bytes = .ok (props, rest) ∧ props.members = members := by
  constructor
  · intro h
    rw [Json.value_eq, Json.Reader.map] at h
    cases hread : Json.written depth bytes with
    | error fault =>
        rw [hread] at h
        cases h
    | ok read =>
        rw [hread, Json.map_ok, Except.ok.injEq, Prod.map, Prod.mk.injEq] at h
        obtain ⟨hvalue, rfl⟩ := h
        obtain ⟨pairs, hpairs, rfl⟩ := Json.Written.value_eq_object_iff.mp hvalue
        refine ⟨ofWritten pairs, (reader_eq_ok_iff expected).mpr ⟨pairs, ?_, rfl⟩,
          members_ofWritten pairs⟩
        rw [hread, ← hpairs]
        rfl
  · rintro ⟨props, hprops, rfl⟩
    obtain ⟨pairs, hread, rfl⟩ := (reader_eq_ok_iff expected).mp hprops
    rw [Json.value_eq, Json.Reader.map, hread, Json.map_ok, Prod.map,
      (tells_ofWritten pairs).plain]
    rfl

/-- Reading props is plain decoding with the repeats counted. Both decoders of a value give
the same, faults included; the props are the members of the plain value, and the repeats of
an item and of its labels are counted place by place. -/
theorem reader_faithful :
    (∀ depth bytes, Prod.map Counted.value id <$> counted depth bytes =
        Json.value depth bytes) ∧
      (∀ depth bytes, Json.value depth bytes =
        Prod.map Json.Written.value id <$> Json.written depth bytes) ∧
      (∀ expected depth bytes props rest, reader expected depth bytes = .ok (props, rest) ↔
        ∃ pairs, Json.written depth bytes = .ok (.object pairs, rest) ∧
          props = ofWritten pairs) ∧
      (∀ expected depth bytes members rest,
        Json.value depth bytes = .ok (.object members, rest) ↔
          ∃ props, reader expected depth bytes = .ok (props, rest) ∧
            props.members = members) ∧
      ∀ pairs, (ofWritten pairs).Tells pairs := by
  refine ⟨fun depth bytes => ?_, fun depth bytes => ?_, fun expected _ _ _ _ =>
    reader_eq_ok_iff expected, fun expected _ _ _ _ => value_eq_ok_object_iff expected,
    tells_ofWritten⟩
  · rw [counted_eq, Json.value_eq, Json.Reader.map, Json.Reader.map, Functor.map_map]
    rfl
  · rw [Json.value_eq, Json.Reader.map]

end Props

end Vitae
