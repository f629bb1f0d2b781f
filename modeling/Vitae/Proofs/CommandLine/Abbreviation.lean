import Mathlib.Data.List.Forall2
import Vitae.CommandLine.Abbreviation
import Vitae.CommandLine.Arguments
import Vitae.Proofs.Text.Utf8

/-!
# Abbreviations Spelled Out

An argument makes use of an abbreviation if it is the short flag alone or the short flag with
a value behind an equals sign. Such an argument becomes the long flag with the same value, byte
for byte, as long as the whole of it is text; every other argument is left alone
(`spellOut_spelled`). What was spelled out makes use of no abbreviation any more, so nothing
changes the second time.

An argument whose value is no text is left alone as well. It is a cluster of one-letter flags
then, and the first of them takes what is left for a color. A color has to be text, so no
command line with such an argument is accepted (`ofArguments_of_unread`), although the long
flag takes any value.

## Main definitions

* `IsText`: A byte string that encodes a text.
* `Abbreviation.Uses`: An argument that makes use of an abbreviation.
* `Spelled`: What becomes of an argument.

## Theorems

* `isText_append`: A text with ASCII in front.
* `Abbreviation.expand?_eq_some_iff`: When an abbreviation is spelled out, and how.
* `Abbreviation.Uses.unique`: An argument makes use of one abbreviation at most.
* `spellOut_spelled`: What becomes of each argument.
* `ofArguments_of_unread`: A value that is no text behind a short flag.
* `spelled_spellOutAll`: What becomes of a command line.
* `not_forall_spelled`: A short flag that is left alone.
-/

namespace Vitae

/-! ### Text -/

/-- A byte string that encodes a text. -/
def IsText (bytes : Bytes) : Prop :=
  ∃ text, Utf8.encode text = bytes

theorem isText_iff {bytes : Bytes} : IsText bytes ↔ ∃ text, Utf8.decode? bytes = some text := by
  simp only [IsText, Utf8.decode?_eq_some_iff]
  exact exists_congr fun text => eq_comm

theorem decode?_eq_none_iff {bytes : Bytes} : Utf8.decode? bytes = none ↔ ¬IsText bytes := by
  rw [isText_iff, ← Option.isSome_iff_exists, Option.not_isSome_iff_eq_none]

/-- What is text is text all along. -/
theorem isText_iff_scan {bytes : Bytes} :
    IsText bytes ↔ ∃ cs : List Char, Utf8.scan bytes = cs.map some := by
  rw [isText_iff]
  constructor
  · rintro ⟨text, htext⟩
    obtain ⟨cs, hcs, -⟩ := Option.map_eq_some_iff.mp htext
    exact ⟨cs, Utf8.decodeChars?_eq_some_iff.mp hcs⟩
  · rintro ⟨cs, hcs⟩
    exact ⟨String.ofList cs,
      Option.map_eq_some_iff.mpr ⟨cs, Utf8.decodeChars?_eq_some_iff.mpr hcs, rfl⟩⟩

theorem isText_cons {b : UInt8} (hb : b < 0x80) (rest : Bytes) :
    IsText (b :: rest) ↔ IsText rest := by
  have hscan : Utf8.scan (b :: rest) = some (Char.ofNat b.toNat) :: Utf8.scan rest :=
    Utf8.scanFrom_ascii hb rest
  rw [isText_iff_scan, isText_iff_scan, hscan]
  constructor
  · rintro ⟨cs, hcs⟩
    cases cs with
    | nil => cases hcs
    | cons c cs => exact ⟨cs, (List.cons.inj hcs).2⟩
  · rintro ⟨cs, hcs⟩
    exact ⟨Char.ofNat b.toNat :: cs, congrArg _ hcs⟩

/-- ASCII in front plays no part in whether a byte string is text. -/
theorem isText_append {front : Bytes} (hfront : ∀ b ∈ front, b < 0x80) (rest : Bytes) :
    IsText (front ++ rest) ↔ IsText rest := by
  induction front with
  | nil => rfl
  | cons b front ih =>
    rw [List.cons_append, isText_cons (hfront b List.mem_cons_self),
      ih fun c hc => hfront c (List.mem_cons_of_mem b hc)]

/-! ### Flags -/

namespace Abbreviation

/-- An argument makes use of an abbreviation: behind the short flag there is nothing, or an
equals sign and a value. -/
def Uses (abbreviation : Abbreviation) (argument tail : Bytes) : Prop :=
  argument = abbreviation.short ++ tail ∧ (tail = [] ∨ ∃ value, tail = equals :: value)

variable {a b : Abbreviation} {argument tail : Bytes}

theorem expand?_eq_some_iff {result : Bytes} :
    a.expand? argument = some result ↔ ∃ tail, a.Uses argument tail ∧ result = a.long ++ tail := by
  unfold expand?
  split
  · rename_i halone
    constructor
    · intro h
      cases h
      exact ⟨[], ⟨by rw [halone, List.append_nil], .inl rfl⟩, (List.append_nil _).symm⟩
    · rintro ⟨tail, ⟨htail, -⟩, rfl⟩
      -- Nothing is left behind the flag.
      rw [halone, List.self_eq_append_right] at htail
      rw [htail, List.append_nil]
  · rename_i hvalued
    simp only [Option.map_eq_some_iff, List.isPrefixOf?_eq_some_iff_append_eq]
    constructor
    · rintro ⟨value, rfl, rfl⟩
      exact ⟨equals :: value, ⟨by rw [List.append_assoc, List.singleton_append], .inr ⟨value, rfl⟩⟩,
        rfl⟩
    · rintro ⟨tail, ⟨rfl, rfl | ⟨value, rfl⟩⟩, rfl⟩
      · exact absurd (List.append_nil _) hvalued
      · exact ⟨value, by rw [List.append_assoc, List.singleton_append], rfl⟩

theorem Uses.unique (ha : a ∈ all) (hb : b ∈ all) (h : a.Uses argument tail) {other : Bytes}
    (h' : b.Uses argument other) : b = a ∧ other = tail := by
  have hshort : ∀ x ∈ all, ∀ y ∈ all, x.short = y.short → x = y := by decide
  have hlength : ∀ x ∈ all, x.short.length = 3 := by decide
  obtain ⟨hsame, htail⟩ := List.append_inj (h'.1.symm.trans h.1)
    ((hlength b hb).trans (hlength a ha).symm)
  exact ⟨hshort b hb a ha hsame, htail⟩

/-- A long flag makes use of no abbreviation. -/
theorem not_uses_long (ha : a ∈ all) (hb : b ∈ all) (value other : Bytes) :
    ¬b.Uses (a.long ++ value) other := by
  rintro ⟨heq, -⟩
  -- The second byte of a long flag is another dash.
  have hfront : ∀ x ∈ all, ∀ y ∈ all, x.long.take 2 ≠ y.short.take 2 := by decide
  have hlong : ∀ x ∈ all, 2 ≤ x.long.length := by decide
  have hshort : ∀ x ∈ all, 2 ≤ x.short.length := by decide
  have htake := congrArg (List.take 2) heq
  rw [List.take_append_of_le_length (hlong a ha),
    List.take_append_of_le_length (hshort b hb)] at htake
  exact hfront a ha b hb htake

end Abbreviation

/-- What becomes of an argument if the abbreviations are spelled out in those that are looked
at. -/
structure Spelled (looked : Bytes → Prop) (argument result : Bytes) : Prop where
  /-- Only the flag is replaced. -/
  flag : ∀ a ∈ Abbreviation.all, ∀ tail, a.Uses argument tail → looked argument →
    result = a.long ++ tail
  /-- Any other argument is left alone. -/
  other : (∀ a ∈ Abbreviation.all, ∀ tail, a.Uses argument tail → ¬looked argument) →
    result = argument

section SpellOut

variable {a : Abbreviation} {argument tail : Bytes}

theorem spellOut_of_uses (ha : a ∈ Abbreviation.all) (huses : a.Uses argument tail)
    (htext : IsText argument) : spellOut argument = a.long ++ tail := by
  obtain ⟨text, hdecode⟩ := isText_iff.mp htext
  have hexpand : a.expand? argument = some (a.long ++ tail) :=
    Abbreviation.expand?_eq_some_iff.mpr ⟨tail, huses, rfl⟩
  unfold spellOut
  simp only [hdecode]
  cases hfind : Abbreviation.all.findSome? (·.expand? argument) with
  | none =>
    rw [List.findSome?_eq_none_iff.mp hfind a ha] at hexpand
    cases hexpand
  | some result =>
    -- Whichever abbreviation is found, it is this one.
    obtain ⟨b, hb, hresult⟩ := List.exists_of_findSome?_eq_some hfind
    obtain ⟨other, hother, rfl⟩ := Abbreviation.expand?_eq_some_iff.mp hresult
    obtain ⟨rfl, rfl⟩ := huses.unique ha hb hother
    rfl

theorem spellOut_of_not_uses
    (h : ∀ a ∈ Abbreviation.all, ∀ tail, a.Uses argument tail → ¬IsText argument) :
    spellOut argument = argument := by
  unfold spellOut
  cases hdecode : Utf8.decode? argument with
  | none => rfl
  | some text =>
    have htext := isText_iff.mpr ⟨text, hdecode⟩
    have hnone : Abbreviation.all.findSome? (·.expand? argument) = none := by
      refine List.findSome?_eq_none_iff.mpr fun a ha => ?_
      refine Option.eq_none_iff_forall_ne_some.mpr fun result hresult => ?_
      obtain ⟨tail, huses, -⟩ := Abbreviation.expand?_eq_some_iff.mp hresult
      exact h a ha tail huses htext
    simp only [hnone, Option.getD_none]

/-- What becomes of an argument. Those that are no text are not looked at. -/
theorem spellOut_spelled (argument : Bytes) : Spelled IsText argument (spellOut argument) :=
  ⟨fun _ ha _ huses htext => spellOut_of_uses ha huses htext, spellOut_of_not_uses⟩

/-- A long flag stays what it is. -/
theorem spellOut_long (ha : a ∈ Abbreviation.all) (value : Bytes) :
    spellOut (a.long ++ value) = a.long ++ value :=
  spellOut_of_not_uses fun _ hb other huses =>
    absurd huses (Abbreviation.not_uses_long ha hb value other)

theorem spellOut_spellOut (argument : Bytes) :
    spellOut (spellOut argument) = spellOut argument := by
  by_cases h : ∀ a ∈ Abbreviation.all, ∀ tail, a.Uses argument tail → ¬IsText argument
  · rw [spellOut_of_not_uses h, spellOut_of_not_uses h]
  · push Not at h
    obtain ⟨a, ha, tail, huses, htext⟩ := h
    rw [spellOut_of_uses ha huses htext, spellOut_long ha]

end SpellOut

/-! ### Values that are no text -/

section Unread

variable {a : Abbreviation} {value : Bytes}

/-- A flag with a value behind an equals sign. -/
def withValue (flag value : Bytes) : Bytes :=
  flag ++ Abbreviation.equals :: value

theorem isText_withValue (ha : a ∈ Abbreviation.all) :
    IsText (withValue a.short value) ↔ IsText value := by
  have hall : ∀ x ∈ Abbreviation.all, x.short.all (· < 0x80) = true := by decide
  have hflag : ∀ b ∈ a.short, b < 0x80 := fun b hb =>
    of_decide_eq_true (List.all_eq_true.mp (hall a ha) b hb)
  rw [withValue, isText_append hflag, isText_cons (by decide)]

/-- What goes on with an error ends with one. -/
theorem exists_error_bind {ε α β : Type} {x : Except ε α} {f : α → Except ε β}
    (h : ∀ y, x = .ok y → ∃ error, f y = .error error) : ∃ error, (x >>= f) = .error error := by
  cases x with
  | error error => exact ⟨error, rfl⟩
  | ok y => exact h y rfl

/-- A color has to be text. -/
theorem accept_color (hvalue : ¬IsText value) (scan : Scan) :
    ∃ error, scan.accept .color [value] = .error error := by
  have htext : Settings.textValue value = .error .notText := by
    rw [Settings.textValue, decode?_eq_none_iff.mpr hvalue]
  have hset : scan.settings.set .color [value] = .error .notText := by
    change (Settings.textValue value >>= _) = _
    rw [htext]
    rfl
  unfold Scan.accept
  split
  · exact ⟨_, rfl⟩
  · split
    · exact ⟨_, rfl⟩
    · rw [hset]
      exact ⟨_, rfl⟩

/-- The first letter of a short flag is that of the color, which takes what is left. -/
theorem readCluster_of_unread {letter : UInt8} (hletter : letter ≠ Abbreviation.equals)
    (hvalue : ¬IsText (letter :: value)) (scan : Scan) :
    ∃ error, scan.readCluster (0x63 :: letter :: value) = .error error := by
  have hswitch : Switch.ofShort? (Char.ofNat (0x63 : UInt8).toNat) = some .color := by decide
  have htakes : Switch.color.arity.takesValues = true := rfl
  unfold Scan.readCluster
  simp only [hswitch, htakes, if_true, List.isEmpty_cons, Bool.false_eq_true, if_false,
    Scan.attached, if_neg hletter]
  exact exists_error_bind fun settled _ => accept_color hvalue settled

theorem readAll_of_unread (ha : a ∈ Abbreviation.all) (hvalue : ¬IsText value)
    {arguments : List Bytes} (h : withValue a.short value ∈ arguments) (scan : Scan) :
    ∃ error, scan.readAll arguments = .error error := by
  have hshort : ∀ x ∈ Abbreviation.all, ∃ letter ∈ [(0x76 : UInt8), 0x6C],
      x.short = [ArgumentShape.dash, 0x63, letter] := by decide
  obtain ⟨letter, hletter, hflag⟩ := hshort a ha
  have hascii : letter < 0x80 ∧ letter ≠ Abbreviation.equals := by
    rcases List.mem_pair.mp hletter with rfl | rfl <;> decide
  induction arguments generalizing scan with
  | nil => cases h
  | cons argument rest ih =>
    unfold Scan.readAll
    rcases List.mem_cons.mp h with rfl | h
    · have hcluster : ArgumentShape.of (withValue a.short value) =
          .cluster (0x63 :: letter :: Abbreviation.equals :: value) := by
        rw [withValue, hflag]
        rfl
      have hunread : ¬IsText (letter :: Abbreviation.equals :: value) := by
        rwa [isText_cons hascii.1, isText_cons (by decide)]
      rw [hcluster]
      exact exists_error_bind fun _ hread =>
        have ⟨_, herror⟩ := readCluster_of_unread hascii.2 hunread scan
        nomatch herror.symm.trans hread
    · -- What comes before is accepted or not, and there are arguments left.
      cases ArgumentShape.of argument with
      | stop =>
        cases rest with
        | nil => cases h
        | cons _ _ => exact ⟨_, rfl⟩
      | long name value => exact exists_error_bind fun next _ => ih h next
      | cluster letters => exact exists_error_bind fun next _ => ih h next
      | bare => exact exists_error_bind fun next _ => ih h next

/-- No command line with such a value is accepted. -/
theorem ofArguments_of_unread (ha : a ∈ Abbreviation.all) (hvalue : ¬IsText value)
    (environment : Environment) (program : Bytes) {arguments : List Bytes}
    (h : withValue a.short value ∈ arguments) :
    ∃ error,
      Settings.ofArguments environment (spellOutAll (program :: arguments)) = .error error := by
  have halone : spellOut (withValue a.short value) = withValue a.short value :=
    spellOut_of_not_uses fun _ _ _ _ => (isText_withValue ha).not.mpr hvalue
  have hmem : withValue a.short value ∈ spellOutAll arguments :=
    List.mem_map.mpr ⟨_, h, halone⟩
  obtain ⟨error, herror⟩ := readAll_of_unread ha hvalue hmem Scan.start
  refine exists_error_bind fun scan hscan => ?_
  exact nomatch herror.symm.trans hscan

end Unread

/-- Spelling out goes through the arguments one by one, and a second time it changes nothing.
A short flag with a value that is text means the same as the long flag with that value. With
any other value it is not accepted. -/
theorem spelled_spellOutAll (arguments : List Bytes) :
    List.Forall₂ (Spelled IsText) arguments (spellOutAll arguments) ∧
      spellOutAll (spellOutAll arguments) = spellOutAll arguments ∧
      ∀ a ∈ Abbreviation.all, ∀ value,
        (IsText value → ∀ before after,
          spellOutAll (before ++ withValue a.short value :: after) =
            spellOutAll (before ++ withValue a.long value :: after)) ∧
        (¬IsText value → ∀ environment program before after, ∃ error,
          Settings.ofArguments environment
            (spellOutAll (program :: (before ++ withValue a.short value :: after))) =
              .error error) := by
  refine ⟨?_, ?_, fun a ha value => ⟨fun htext before after => ?_, ?_⟩⟩
  · exact List.forall₂_map_right_iff.mpr (List.forall₂_same.mpr fun argument _ =>
      spellOut_spelled argument)
  · rw [spellOutAll, spellOutAll, List.map_map]
    exact List.map_congr_left fun argument _ => spellOut_spellOut argument
  · have huses : a.Uses (withValue a.short value) (Abbreviation.equals :: value) :=
      ⟨rfl, .inr ⟨value, rfl⟩⟩
    have hsame : spellOut (withValue a.short value) = spellOut (withValue a.long value) :=
      (spellOut_of_uses ha huses ((isText_withValue ha).mpr htext)).trans
        (spellOut_long ha _).symm
    simp only [spellOutAll, List.map_append, List.map_cons, hsame]
  · intro hvalue environment program before after
    exact ofArguments_of_unread ha hvalue environment program
      (List.mem_append_right before List.mem_cons_self)

/-- A value that is text and one that is not. -/
theorem spelled_spellOutAll_cv :
    (∀ environment program before after, ∃ error,
      Settings.ofArguments environment
        (spellOutAll (program :: (before ++ withValue (Utf8.encode "-cv") [0xFF] :: after))) =
          .error error) ∧
      ∀ before after,
        spellOutAll (before ++ withValue (Utf8.encode "-cv") (Utf8.encode "a.json") :: after) =
          spellOutAll
            (before ++ withValue (Utf8.encode "--cvjson") (Utf8.encode "a.json") :: after) :=
  have hmem : ⟨Utf8.encode "-cv", Utf8.encode "--cvjson"⟩ ∈ Abbreviation.all := List.mem_cons_self
  ⟨((spelled_spellOutAll []).2.2 _ hmem [0xFF]).2 (decode?_eq_none_iff.mp (by decide)),
    ((spelled_spellOutAll []).2.2 _ hmem _).1 ⟨_, rfl⟩⟩

/-- A short flag that is left alone. Its value is no text, which the long flag does not mind. -/
theorem not_forall_spelled :
    (¬∀ arguments,
      List.Forall₂ (Spelled fun _ => True) arguments (spellOutAll arguments)) ∧
      ¬∀ a ∈ Abbreviation.all, ∀ value environment before after,
        Settings.ofArguments environment
            (spellOutAll (before ++ withValue a.short value :: after)) =
          Settings.ofArguments environment
            (spellOutAll (before ++ withValue a.long value :: after)) := by
  have hmem : ⟨Utf8.encode "-cv", Utf8.encode "--cvjson"⟩ ∈ Abbreviation.all := List.mem_cons_self
  constructor
  · intro h
    obtain ⟨hspelled, -⟩ := List.forall₂_cons.mp (h [withValue (Utf8.encode "-cv") [0xFF]])
    have hresult := hspelled.flag _ hmem [Abbreviation.equals, 0xFF] ⟨rfl, .inr ⟨_, rfl⟩⟩ trivial
    exact absurd hresult (by decide)
  · intro h
    have hsame := h _ hmem [0xFF] .empty [Utf8.encode "json2pdf"] []
    -- The short flag is refused, and the long one gives the path of the source.
    exact absurd hsame (by decide +kernel)

end Vitae
