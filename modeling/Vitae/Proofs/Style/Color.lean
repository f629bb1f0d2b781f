import Mathlib
import Vitae.Proofs.Text.Ascii
import Vitae.Proofs.Text.Trim
import Vitae.Proofs.Text.Utf8
import Vitae.Style.Color

/-!
# Which Texts Denote Colors

A color is denoted by its name or by its digits, in letters of any case, with one `#` in front
of the digits if one likes and with spaces around. This grammar says nothing about how a text
is read, and a text is read as a color exactly if it denotes that color (`ofText?_eq_some_iff`).
A name is never a run of digits, so it does not matter which of the two is tried first. Any
other text is refused, and there is one refusal only.

Digits can also be read by places: where the text has three or six bytes, parts of it are cut
out by their places in the bytes, and each part is read as a number of eight bits in base
sixteen. Such a cut could fall into a character, and a part could be no number, or one that is
too large. `ofPlaces` does it that way and has an end of its own for each of these cases, and
none of them ever comes up (`ofPlaces_eq`): what is cut has been found to be digits before, so
bytes are characters.

## Main definitions

* `Rgb.IsDigit`, `Rgb.Channel`, `Rgb.Digits`: Digits, and what they denote.
* `Rgb.Names`, `Rgb.InDigits`, `Rgb.Denotes`: The grammar of colors.
* `Rgb.PlaceFault`, `Rgb.ofPlaces`: A color read by places in the bytes of its text.

## Theorems

* `Rgb.digit?_eq_some_iff`: The value of a digit.
* `Rgb.ofDigits?_eq_some_iff`, `Rgb.ofLower?_eq_some_iff`, `Rgb.ofText?_eq_some_iff`: Which
  texts are read as a color.
* `Rgb.not_inDigits_of_names`: A name is no run of digits.
* `Rgb.ofPlaces_eq`: Reading by places comes to the same.
* `Rgb.inDigits_of_hex`: A color is denoted by what is written of it.
* `Rgb.parse_denotes`: What is read as a color, and what is refused.
-/

namespace Vitae

namespace Rgb

/-- The hexadecimal digits, each at the place of its value. -/
def hexDigits : List Char := "0123456789abcdef".toList

/-- A hexadecimal digit in either case, and its value. -/
def IsDigit (c : Char) (value : Nat) : Prop :=
  hexDigits[value]? = some c.toLower

/-- Two digits, and the channel of eight bits that they denote. -/
def Channel (high low : Char) (channel : UInt8) : Prop :=
  ∃ h l, IsDigit high h ∧ IsDigit low l ∧ channel.toNat = 16 * h + l

/-- Digits, and the color that they denote. -/
inductive Digits : List Char → Rgb → Prop where
  /-- There are two digits for each channel. -/
  | long {a a' b b' c c' : Char} {color : Rgb} (hr : Channel a a' color.r)
      (hg : Channel b b' color.g) (hb : Channel c c' color.b) : Digits [a, a', b, b', c, c'] color
  /-- One digit for each channel counts twice. -/
  | short {a b c : Char} {color : Rgb} (h : Digits [a, a, b, b, c, c] color) :
      Digits [a, b, c] color

/-- The name of a color, in letters of any case. -/
def Names (core : List Char) (color : Rgb) : Prop :=
  (String.ofList (core.map Char.toLower), color) ∈ named

/-- Digits of a color, behind one `#` if one likes. -/
def InDigits (core : List Char) (color : Rgb) : Prop :=
  ∃ hash digits, core = hash ++ digits ∧ (hash = [] ∨ hash = ['#']) ∧ Digits digits color

/-- A text that denotes a color: its name or its digits, with spaces around. -/
def Denotes (text : String) (color : Rgb) : Prop :=
  ∃ core, Text.Padded core text.toList ∧ (Names core color ∨ InDigits core color)

variable {core cs : List Char} {color : Rgb}

/-! ### Digits -/

theorem lt_of_digit? {d : Char} {value : UInt8} (h : digit? d = some value) : d.toNat < 128 := by
  unfold digit? at h
  split at h
  · rename_i hdigit
    exact Nat.lt_of_le_of_lt (Char.le_def.mp hdigit.2) (by decide)
  · split at h
    · rename_i hletter
      exact Nat.lt_of_le_of_lt (Char.le_def.mp hletter.2) (by decide)
    · cases h

/-- Only ASCII characters are digits, and these can be gone through. -/
theorem hexDigits_of_digit? : ∀ n : Fin 128, (digit? (Char.ofNat n)).all
    (fun value => hexDigits[value.toNat]? == some (Char.ofNat n)) = true := by
  decide

theorem digit?_of_hexDigits : ∀ n : Fin 16, (hexDigits[n.val]?).all
    (fun d => digit? d == some (UInt8.ofNat n)) = true := by
  decide

/-- The value of a digit is its place among the digits. -/
theorem digit?_eq_some_iff {d : Char} {value : UInt8} :
    digit? d = some value ↔ hexDigits[value.toNat]? = some d := by
  constructor
  · intro h
    have hd := hexDigits_of_digit? ⟨d.toNat, lt_of_digit? h⟩
    rw [Char.ofNat_toNat, h] at hd
    exact beq_iff_eq.mp hd
  · intro h
    obtain ⟨hlt, -⟩ := List.getElem?_eq_some_iff.mp h
    have hd := digit?_of_hexDigits ⟨value.toNat, hlt⟩
    rw [h] at hd
    rw [beq_iff_eq.mp hd, UInt8.ofNat_toNat]

theorem isDigit_iff {c : Char} {value : UInt8} :
    IsDigit c value.toNat ↔ digit? c.toLower = some value := by
  rw [IsDigit, digit?_eq_some_iff]

theorem exists_of_isDigit {c : Char} {n : Nat} (h : IsDigit c n) :
    ∃ value : UInt8, n = value.toNat ∧ digit? c.toLower = some value := by
  obtain ⟨hlt, -⟩ := List.getElem?_eq_some_iff.mp h
  have hn : (UInt8.ofNat n).toNat = n :=
    UInt8.toNat_ofNat_of_lt' (Nat.lt_trans hlt (by decide))
  refine ⟨UInt8.ofNat n, hn.symm, ?_⟩
  rwa [← isDigit_iff, hn]

theorem toNat_lt_of_digit? {d : Char} {value : UInt8} (h : digit? d = some value) :
    value.toNat < 16 := by
  rw [digit?_eq_some_iff] at h
  exact (List.getElem?_eq_some_iff.mp h).1

theorem mem_of_digit? {d : Char} {value : UInt8} (h : digit? d = some value) : d ∈ hexDigits := by
  rw [digit?_eq_some_iff] at h
  exact List.mem_of_getElem? h

/-- The first of two digits counts sixteen times. -/
theorem toNat_channel {high low : UInt8} (hhigh : high.toNat < 16) (hlow : low.toNat < 16) :
    (high * 16 + low).toNat = 16 * high.toNat + low.toNat := by
  rw [UInt8.toNat_add, UInt8.toNat_mul]
  change (high.toNat * 16 % 256 + low.toNat) % 256 = _
  omega

theorem channel_iff {c d : Char} {channel : UInt8} :
    Channel c d channel ↔ ∃ high low, digit? c.toLower = some high ∧ digit? d.toLower = some low ∧
      channel = high * 16 + low := by
  constructor
  · rintro ⟨_, _, hhigh, hlow, heq⟩
    obtain ⟨high, rfl, hc⟩ := exists_of_isDigit hhigh
    obtain ⟨low, rfl, hd⟩ := exists_of_isDigit hlow
    refine ⟨high, low, hc, hd, UInt8.toNat_inj.mp ?_⟩
    rw [heq, toNat_channel (toNat_lt_of_digit? hc) (toNat_lt_of_digit? hd)]
  · rintro ⟨high, low, hc, hd, rfl⟩
    have hvalue := toNat_channel (toNat_lt_of_digit? hc) (toNat_lt_of_digit? hd)
    rw [← isDigit_iff] at hc hd
    exact ⟨high.toNat, low.toNat, hc, hd, hvalue⟩

theorem Channel.of_digits {c d : Char} {high low : UInt8} (hhigh : digit? c.toLower = some high)
    (hlow : digit? d.toLower = some low) : Channel c d (high * 16 + low) := by
  rw [channel_iff]
  exact ⟨high, low, hhigh, hlow, rfl⟩

/-- A digit that counts twice. -/
theorem digits_short_iff {a b c : Char} :
    Digits [a, b, c] color ↔ Digits [a, a, b, b, c, c] color := by
  refine ⟨fun h => ?_, .short⟩
  cases h with
  | short h => exact h

/-- The values of digits, one by one. -/
theorem mapM_digit?_iff {values : List UInt8} :
    (cs.map Char.toLower).mapM digit? = some values ↔
      cs.map (fun c => digit? c.toLower) = values.map some := by
  rw [Utf8.mapM_eq_some_iff, List.map_map]
  rfl

/-- Characters have values one by one if each of them is a digit. -/
theorem exists_mapM_digit?_iff :
    (∃ values, (cs.map Char.toLower).mapM digit? = some values) ↔ ∀ c ∈ cs, ∃ n, IsDigit c n := by
  have hrange := Set.ext_iff.mp (Set.range_list_map (some : UInt8 → Option UInt8))
    (cs.map fun c => digit? c.toLower)
  simp only [Set.mem_range, Set.mem_ofPred_eq, List.forall_mem_map] at hrange
  simp only [mapM_digit?_iff]
  constructor
  · rintro ⟨values, h⟩ c hc
    obtain ⟨value, hvalue⟩ := hrange.mp ⟨values, h.symm⟩ c hc
    exact ⟨value.toNat, isDigit_iff.mpr hvalue.symm⟩
  · intro h
    obtain ⟨values, hvalues⟩ := hrange.mpr fun c hc => by
      obtain ⟨n, hn⟩ := h c hc
      obtain ⟨value, -, hvalue⟩ := exists_of_isDigit hn
      exact ⟨value, hvalue.symm⟩
    exact ⟨values, hvalues.symm⟩

/-- Which digits denote a color. -/
theorem ofDigits?_eq_some_iff :
    ((cs.map Char.toLower).mapM digit?).bind ofDigits? = some color ↔ Digits cs color := by
  rw [Option.bind_eq_some_iff]
  constructor
  · -- The number of values tells which characters there are.
    rintro ⟨values, hvalues, hcolor⟩
    rw [mapM_digit?_iff] at hvalues
    unfold ofDigits? at hcolor
    split at hcolor
    · cases hcolor
      simp only [List.map_cons, List.map_nil, List.map_eq_cons_iff, List.map_eq_nil_iff] at hvalues
      obtain ⟨a, _, rfl, ha, b, _, rfl, hb, c, _, rfl, hc, rfl⟩ := hvalues
      exact .short (.long (.of_digits ha ha) (.of_digits hb hb) (.of_digits hc hc))
    · cases hcolor
      simp only [List.map_cons, List.map_nil, List.map_eq_cons_iff, List.map_eq_nil_iff] at hvalues
      obtain ⟨a, _, rfl, ha, a', _, rfl, ha', b, _, rfl, hb, b', _, rfl, hb', c, _, rfl, hc, c', _,
        rfl, hc', rfl⟩ := hvalues
      exact .long (.of_digits ha ha') (.of_digits hb hb') (.of_digits hc hc')
    · cases hcolor
  · rintro (⟨hr, hg, hblue⟩ | ⟨⟨hr, hg, hblue⟩⟩)
    · obtain ⟨r, r', ha, ha', hr⟩ := channel_iff.mp hr
      obtain ⟨g, g', hb, hb', hg⟩ := channel_iff.mp hg
      obtain ⟨b, b', hc, hc', hblue⟩ := channel_iff.mp hblue
      refine ⟨[r, r', g, g', b, b'], mapM_digit?_iff.mpr ?_, ?_⟩
      · simp only [List.map_cons, List.map_nil, ha, ha', hb, hb', hc, hc']
      · rw [ofDigits?, ← hr, ← hg, ← hblue]
    · obtain ⟨r, _, ha, ha', hr⟩ := channel_iff.mp hr
      obtain ⟨g, _, hb, hb', hg⟩ := channel_iff.mp hg
      obtain ⟨b, _, hc, hc', hblue⟩ := channel_iff.mp hblue
      -- The two digits of a channel are one.
      cases ha.symm.trans ha'
      cases hb.symm.trans hb'
      cases hc.symm.trans hc'
      refine ⟨[r, g, b], mapM_digit?_iff.mpr ?_, ?_⟩
      · simp only [List.map_cons, List.map_nil, ha, hb, hc]
      · rw [ofDigits?, ← hr, ← hg, ← hblue]

theorem isDigit_of_mem_digits (h : Digits cs color) {c : Char} (hc : c ∈ cs) :
    ∃ n, IsDigit c n := by
  obtain ⟨values, hvalues, -⟩ := Option.bind_eq_some_iff.mp (ofDigits?_eq_some_iff.mpr h)
  exact exists_mapM_digit?_iff.mp ⟨values, hvalues⟩ c hc

theorem exists_of_length_six {α : Type} {xs : List α} (h : xs.length = 6) :
    ∃ a a' b b' c c', xs = [a, a', b, b', c, c'] := by
  match xs, h with
  | [a, a', b, b', c, c'], _ => exact ⟨a, a', b, b', c, c', rfl⟩

/-- Three or six digits denote a color, whatever they are. -/
theorem exists_digits_iff :
    (∃ color, Digits cs color) ↔
      (cs.length = 3 ∨ cs.length = 6) ∧ ∀ c ∈ cs, ∃ n, IsDigit c n := by
  have hchannel : ∀ {c d : Char}, (∃ n, IsDigit c n) → (∃ n, IsDigit d n) →
      ∃ channel, Channel c d channel := by
    rintro c d ⟨_, hc⟩ ⟨_, hd⟩
    obtain ⟨high, -, hc⟩ := exists_of_isDigit hc
    obtain ⟨low, -, hd⟩ := exists_of_isDigit hd
    exact ⟨_, .of_digits hc hd⟩
  constructor
  · rintro ⟨color, h⟩
    refine ⟨?_, fun c hc => isDigit_of_mem_digits h hc⟩
    cases h
    · exact .inr rfl
    · exact .inl rfl
  · rintro ⟨hlength | hlength, h⟩
    · obtain ⟨a, b, c, rfl⟩ := List.length_eq_three.mp hlength
      simp only [List.forall_mem_cons] at h
      obtain ⟨ha, hb, hc, -⟩ := h
      obtain ⟨r, hr⟩ := hchannel ha ha
      obtain ⟨g, hg⟩ := hchannel hb hb
      obtain ⟨b, hb⟩ := hchannel hc hc
      exact ⟨⟨r, g, b⟩, .short (.long hr hg hb)⟩
    · obtain ⟨a, a', b, b', c, c', rfl⟩ := exists_of_length_six hlength
      simp only [List.forall_mem_cons] at h
      obtain ⟨ha, ha', hb, hb', hc, hc', -⟩ := h
      obtain ⟨r, hr⟩ := hchannel ha ha'
      obtain ⟨g, hg⟩ := hchannel hb hb'
      obtain ⟨b, hb⟩ := hchannel hc hc'
      exact ⟨⟨r, g, b⟩, .long hr hg hb⟩

/-! ### Names and digits -/

theorem lookup_named {name : String} :
    named.lookup name = some color ↔ (name, color) ∈ named := by
  constructor
  · intro h
    obtain ⟨front, back, heq, -⟩ := List.lookup_eq_some_iff.mp h
    rw [heq]
    exact List.mem_append_right _ List.mem_cons_self
  · intro h
    have hall : ∀ entry ∈ named, named.lookup entry.1 = some entry.2 := by decide
    exact hall _ h

theorem withoutHash_eq (cs : List Char) : withoutHash cs = Text.withoutOne '#' cs := by
  unfold withoutHash
  split
  · rfl
  · rename_i hhash
    cases cs with
    | nil => rfl
    | cons c rest => exact (if_neg fun hc => hhash rest (congrArg (· :: rest) hc)).symm

/-- A letter is not the lower case of anything but a letter. -/
theorem toLower_eq_self {c : Char} (h : c.toLower.isAlpha = false) : c.toLower = c := by
  refine Char.toLower_eq_of_not_isUpper fun hupper => ?_
  rw [Char.isAlpha_toLower_eq_isAlpha, Char.isAlpha, hupper, Bool.true_or] at h
  cases h

theorem withoutHash_map (core : List Char) :
    withoutHash (core.map Char.toLower) = (withoutHash core).map Char.toLower := by
  rw [withoutHash_eq, withoutHash_eq]
  cases core with
  | nil => rfl
  | cons c rest =>
    by_cases hc : c = '#'
    · rw [hc]
      rfl
    · have hlower : c.toLower ≠ '#' := fun h => hc ((toLower_eq_self (by rw [h]; rfl)).symm.trans h)
      rw [List.map_cons, Text.withoutOne, Text.withoutOne, if_neg hc, if_neg hlower, List.map_cons]

theorem hash_notMem_of_digits (h : Digits cs color) : '#' ∉ cs := by
  intro hmem
  obtain ⟨n, hn⟩ := isDigit_of_mem_digits h hmem
  exact absurd (List.mem_of_getElem? hn) (by decide)

theorem inDigits_iff :
    ((withoutHash (core.map Char.toLower)).mapM digit?).bind ofDigits? = some color ↔
      InDigits core color := by
  rw [withoutHash_map, ofDigits?_eq_some_iff, withoutHash_eq]
  constructor
  · intro h
    obtain ⟨hash, hcore, hhash⟩ := Text.exists_withoutOne '#' core
    exact ⟨hash, _, hcore, hhash, h⟩
  · rintro ⟨hash, digits, rfl, hhash, h⟩
    rwa [Text.withoutOne_append hhash (hash_notMem_of_digits h)]

/-- No name is made of digits. -/
theorem not_inDigits_of_names (h : Names core color) (other : Rgb) : ¬InDigits core other := by
  intro hdigits
  have hall : ∀ entry ∈ named, (withoutHash entry.1.toList).mapM digit? = none := by decide
  have hnone := hall _ h
  rw [String.toList_ofList] at hnone
  have hsome := inDigits_iff.mpr hdigits
  rw [hnone] at hsome
  cases hsome

/-- What lower-case characters are read as. -/
theorem ofLower?_eq_some_iff :
    ofLower? (core.map Char.toLower) = some color ↔ Names core color ∨ InDigits core color := by
  unfold ofLower?
  constructor
  · intro h
    split at h
    · rename_i found hfound
      cases h
      exact .inl (lookup_named.mp hfound)
    · exact .inr (inDigits_iff.mp h)
  · rintro (h | h)
    · rw [lookup_named.mpr h]
    · split
      · rename_i found hfound
        exact absurd h (not_inDigits_of_names (lookup_named.mp hfound) color)
      · exact inDigits_iff.mpr h

theorem isSpace_of_isAlphanum {c : Char} (h : c.isAlphanum = true) : Text.isSpace c = false := by
  have hrange : (65 ≤ c.toNat ∧ c.toNat ≤ 90) ∨ (97 ≤ c.toNat ∧ c.toNat ≤ 122) ∨
      (48 ≤ c.toNat ∧ c.toNat ≤ 57) := by
    simp only [Char.isAlphanum, Char.isAlpha, Char.isUpper, Char.isLower, Char.isDigit,
      Bool.or_eq_true, Bool.and_eq_true, decide_eq_true_eq] at h
    rcases h with (h | h) | h
    · exact .inl h
    · exact .inr (.inl h)
    · exact .inr (.inr h)
  simp only [Text.isSpace, Bool.or_eq_false_iff, Bool.and_eq_false_iff, beq_eq_false_iff_ne,
    decide_eq_false_iff_not, ne_eq]
  omega

theorem isSpace_of_toLower {c : Char} (h : c.toLower.isAlphanum = true) :
    Text.isSpace c = false := by
  by_cases hupper : c.isUpper = true
  · exact isSpace_of_isAlphanum (by rw [Char.isAlphanum, Char.isAlpha, hupper]; rfl)
  · rw [Char.toLower_eq_of_not_isUpper hupper] at h
    exact isSpace_of_isAlphanum h

/-- There is no space in a name or among digits. -/
theorem solid_core (h : Names core color ∨ InDigits core color) :
    ∀ c ∈ core, Text.isSpace c = false := by
  intro c hc
  rcases h with h | ⟨hash, digits, rfl, hhash, h⟩
  · have hall : ∀ entry ∈ named, entry.1.toList.all Char.isAlphanum = true := by decide
    have hname := hall _ h
    rw [String.toList_ofList, List.all_map, List.all_eq_true] at hname
    exact isSpace_of_toLower (hname c hc)
  · rcases List.mem_append.mp hc with hc | hc
    · rcases hhash with rfl | rfl
      · exact absurd hc List.not_mem_nil
      · rw [List.mem_singleton.mp hc]
        rfl
    · obtain ⟨n, hn⟩ := isDigit_of_mem_digits h hc
      have hall : hexDigits.all Char.isAlphanum = true := by decide
      exact isSpace_of_toLower (List.all_eq_true.mp hall _ (List.mem_of_getElem? hn))

/-- Which texts are read as a color. -/
theorem ofText?_eq_some_iff {text : String} : ofText? text = some color ↔ Denotes text color := by
  rw [ofText?, ofLower?_eq_some_iff]
  constructor
  · exact fun h => ⟨_, Text.padded_trimChars _, h⟩
  · rintro ⟨core, hpadded, h⟩
    rwa [Text.trimChars_of_padded hpadded (solid_core h)]

/-! ### Reading by places -/

/-- What can be wrong with a part of a text that is given by its places. -/
inductive PlaceFault where
  /-- It begins or ends within a character. -/
  | torn
  /-- It is no number of eight bits. -/
  | noOctet
deriving DecidableEq, Repr

/-- The number of eight bits that digits of either case denote in base sixteen, with a plus
sign in front of them if one likes. -/
def octet? (cs : List Char) : Option UInt8 :=
  let digits := Text.withoutOne '+' cs
  if digits.isEmpty then none
  else
    match (digits.map Char.toLower).mapM digit? with
    | none => none
    | some values =>
      let n := values.foldl (fun n value => n * 16 + value.toNat) 0
      if n < 256 then some (UInt8.ofNat n) else none

/-- The channel that the part between two places denotes if it is written a number of times. -/
def channelAt (times first last : Nat) (cs : List Char) : Except PlaceFault UInt8 :=
  match Utf8.slice? first last cs with
  | none => .error .torn
  | some part =>
    match octet? (List.replicate times part).flatten with
    | none => .error .noOctet
    | some channel => .ok channel

/-- The color of a text with a number of bytes for each channel. -/
def colorAt (times width : Nat) (cs : List Char) : Except PlaceFault Rgb := do
  let r ← channelAt times 0 width cs
  let g ← channelAt times width (2 * width) cs
  let b ← channelAt times (2 * width) (3 * width) cs
  .ok ⟨r, g, b⟩

/-- The color a text names, or why it names none, with the digits read by places. -/
def ofPlaces (text : String) : Except PlaceFault (Except BadColor Rgb) :=
  let lower := (Text.trimChars text.toList).map Char.toLower
  match named.lookup (String.ofList lower) with
  | some color => .ok (.ok color)
  | none =>
    let digits := withoutHash lower
    if digits.all fun c => hexDigits.contains c.toLower then
      match (Utf8.encode (String.ofList digits)).length with
      | 3 => (colorAt 2 1 digits).map .ok
      | 6 => (colorAt 1 2 digits).map .ok
      | _ => .ok (.error ⟨Text.trim text⟩)
    else .ok (.error ⟨Text.trim text⟩)

section Places

variable {a a' b b' c c' d : Char} {r r' g g' bl bl' : UInt8}

theorem toLower_of_digit? {value : UInt8} (h : digit? d = some value) : d.toLower = d := by
  have hall : hexDigits.all (fun d => d.toLower == d) = true := by decide
  exact beq_iff_eq.mp (List.all_eq_true.mp hall d (mem_of_digit? h))

/-- Two digits are a number of eight bits. -/
theorem octet?_pair (ha : digit? a = some r) (ha' : digit? a' = some r') :
    octet? [a, a'] = some (r * 16 + r') := by
  have hplus : a ≠ '+' := by
    rintro rfl
    exact absurd (mem_of_digit? ha) (by decide)
  have hr := toNat_lt_of_digit? ha
  have hr' := toNat_lt_of_digit? ha'
  have hvalue := toNat_channel hr hr'
  have hvalues : ([a, a'].map Char.toLower).mapM digit? = some [r, r'] := by
    rw [Utf8.mapM_eq_some_iff]
    simp only [List.map_cons, List.map_nil, toLower_of_digit? ha, toLower_of_digit? ha', ha, ha']
  have hn : [r, r'].foldl (fun n value => n * 16 + value.toNat) 0 = (r * 16 + r').toNat := by
    rw [hvalue]
    simp only [List.foldl_cons, List.foldl_nil]
    omega
  unfold octet?
  simp only [Text.withoutOne, if_neg hplus, List.isEmpty_cons, Bool.false_eq_true, if_false, hvalues,
    hn]
  rw [if_pos (UInt8.toNat_lt _), UInt8.ofNat_toNat]

theorem channelAt_eq {times first last : Nat} {cs : List Char} {channel : UInt8} (hcs : Ascii cs)
    (hfirst : first ≤ last) (hlast : last ≤ cs.length)
    (h : octet? (List.replicate times ((cs.take last).drop first)).flatten = some channel) :
    channelAt times first last cs = .ok channel := by
  rw [channelAt, Utf8.slice?_of_ascii hcs hfirst hlast]
  simp only [h]

/-- Digits are ASCII characters. -/
theorem ascii_of_digits {cs : List Char} {values : List UInt8}
    (h : cs.map digit? = values.map some) : Ascii cs := by
  intro c hc
  have hmem : digit? c ∈ values.map some := h ▸ List.mem_map_of_mem hc
  obtain ⟨value, -, hvalue⟩ := List.mem_map.mp hmem
  exact ⟨Nat.zero_le _, lt_of_digit? hvalue.symm⟩

theorem colorAt_short (h : [a, b, c].map digit? = [r, g, bl].map some) :
    colorAt 2 1 [a, b, c] = .ok ⟨r * 16 + r, g * 16 + g, bl * 16 + bl⟩ := by
  have hascii := ascii_of_digits h
  simp only [List.map_cons, List.map_nil, List.cons.injEq, and_true] at h
  obtain ⟨ha, hb, hc⟩ := h
  have hr : channelAt 2 0 1 [a, b, c] = .ok (r * 16 + r) :=
    channelAt_eq hascii (by decide) (by decide : 1 ≤ 3) (octet?_pair ha ha)
  have hg : channelAt 2 1 2 [a, b, c] = .ok (g * 16 + g) :=
    channelAt_eq hascii (by decide) (by decide : 2 ≤ 3) (octet?_pair hb hb)
  have hbl : channelAt 2 2 3 [a, b, c] = .ok (bl * 16 + bl) :=
    channelAt_eq hascii (by decide) (by decide : 3 ≤ 3) (octet?_pair hc hc)
  simp only [colorAt, Nat.reduceMul, hr, hg, hbl]
  rfl

theorem colorAt_long (h : [a, a', b, b', c, c'].map digit? = [r, r', g, g', bl, bl'].map some) :
    colorAt 1 2 [a, a', b, b', c, c'] = .ok ⟨r * 16 + r', g * 16 + g', bl * 16 + bl'⟩ := by
  have hascii := ascii_of_digits h
  simp only [List.map_cons, List.map_nil, List.cons.injEq, and_true] at h
  obtain ⟨ha, ha', hb, hb', hc, hc'⟩ := h
  have hr : channelAt 1 0 2 [a, a', b, b', c, c'] = .ok (r * 16 + r') :=
    channelAt_eq hascii (by decide) (by decide : 2 ≤ 6) (octet?_pair ha ha')
  have hg : channelAt 1 2 4 [a, a', b, b', c, c'] = .ok (g * 16 + g') :=
    channelAt_eq hascii (by decide) (by decide : 4 ≤ 6) (octet?_pair hb hb')
  have hbl : channelAt 1 4 6 [a, a', b, b', c, c'] = .ok (bl * 16 + bl') :=
    channelAt_eq hascii (by decide) (by decide : 6 ≤ 6) (octet?_pair hc hc')
  simp only [colorAt, Nat.reduceMul, hr, hg, hbl]
  rfl

end Places

/-- The digits are looked for among all characters before any of them is read. -/
theorem all_contains_iff :
    ((cs.map Char.toLower).all fun c => hexDigits.contains c.toLower) = true ↔
      ∃ values, (cs.map Char.toLower).mapM digit? = some values := by
  rw [exists_mapM_digit?_iff, List.all_map, List.all_eq_true]
  refine forall₂_congr fun c _ => ?_
  rw [Function.comp_apply, Char.toLower_toLower_eq_toLower, List.contains_iff_mem,
    List.mem_iff_getElem?]
  rfl

theorem length_of_ofDigits? {values : List UInt8} (h : ofDigits? values = some color) :
    values.length = 3 ∨ values.length = 6 := by
  unfold ofDigits? at h
  split at h
  · exact .inl rfl
  · exact .inr rfl
  · cases h

/-- Reading digits by places comes to the same, and nothing goes wrong with any part. -/
theorem ofPlaces_eq (text : String) : ofPlaces text = .ok (parse text) := by
  unfold ofPlaces parse ofText? ofLower?
  simp only
  rw [withoutHash_map]
  generalize withoutHash (Text.trimChars text.toList) = cs
  cases named.lookup (String.ofList ((Text.trimChars text.toList).map Char.toLower)) with
  | some color => rfl
  | none =>
    cases hvalues : (cs.map Char.toLower).mapM digit? with
    | none =>
      -- A character that is no digit is found before anything is cut out.
      have hnot : ¬((cs.map Char.toLower).all fun c => hexDigits.contains c.toLower) = true := by
        intro hall
        obtain ⟨values, h⟩ := all_contains_iff.mp hall
        rw [hvalues] at h
        cases h
      simp only [if_neg hnot, Option.bind_none]
    | some values =>
      simp only [if_pos (all_contains_iff.mpr ⟨values, hvalues⟩), Option.bind_some]
      rw [Utf8.mapM_eq_some_iff] at hvalues
      generalize cs.map Char.toLower = digits at hvalues
      -- There are as many bytes as there are characters, and as many of these as values.
      have hlength : digits.length = values.length := by
        rw [← List.length_map digit?, hvalues, List.length_map]
      rw [Utf8.length_encode (ascii_of_digits hvalues), hlength]
      split
      · rename_i hthree
        obtain ⟨r, g, bl, rfl⟩ := List.length_eq_three.mp hthree
        obtain ⟨a, b, c, rfl⟩ := List.length_eq_three.mp hlength
        rw [colorAt_short hvalues]
        rfl
      · rename_i hsix
        obtain ⟨r, r', g, g', bl, bl', rfl⟩ := exists_of_length_six hsix
        obtain ⟨a, a', b, b', c, c', rfl⟩ := exists_of_length_six hlength
        rw [colorAt_long hvalues]
        rfl
      · rename_i hthree hsix
        cases hcolor : ofDigits? values with
        | none => rfl
        | some color => exact ((length_of_ofDigits? hcolor).elim hthree hsix).elim

/-! ### What is written of a color -/

theorem isDigit_digitChar {c : Char} {n : Nat} (h : c.toLower = digitChar n) :
    IsDigit c (n % 16) := by
  have hall : ∀ n : Fin 16, hexDigits[n.val]? = some n.val.digitChar := by decide
  rw [IsDigit, h]
  exact hall ⟨n % 16, Nat.mod_lt _ (by decide)⟩

theorem channel_of_hex {high low : Char} {channel : UInt8}
    (h : [high.toLower, low.toLower] = channelHex channel) : Channel high low channel := by
  simp only [channelHex, List.cons.injEq, and_true] at h
  refine ⟨_, _, isDigit_digitChar h.1, isDigit_digitChar h.2, ?_⟩
  have hlt := channel.toNat_lt
  omega

theorem digits_of_hex (h : '#' :: cs.map Char.toLower = color.hex.toList) : Digits cs color := by
  simp only [hex, String.toList_ofList, channelHex, List.cons_append, List.nil_append,
    List.cons.injEq, true_and, List.map_eq_cons_iff, List.map_eq_nil_iff] at h
  obtain ⟨a, _, rfl, ha, a', _, rfl, ha', b, _, rfl, hb, b', _, rfl, hb', c, _, rfl, hc, c', _, rfl,
    hc', rfl⟩ := h
  refine .long (channel_of_hex ?_) (channel_of_hex ?_) (channel_of_hex ?_)
  · rw [channelHex, ha, ha']
  · rw [channelHex, hb, hb']
  · rw [channelHex, hc, hc']

/-- A color is denoted by what is written of it, in letters of any case, with the `#` in front or
without it. -/
theorem inDigits_of_hex (h : core.map Char.toLower = color.hex.toList ∨
    '#' :: core.map Char.toLower = color.hex.toList) : InDigits core color := by
  rcases h with h | h
  · have hhash : ∃ cs, color.hex.toList = '#' :: cs := ⟨_, String.toList_ofList⟩
    obtain ⟨cs, hcs⟩ := hhash
    obtain ⟨c, digits, rfl, hc, -⟩ := List.map_eq_cons_iff.mp (h.trans hcs)
    have hcolor : c = '#' := (toLower_eq_self (by rw [hc]; rfl)).symm.trans hc
    rw [List.map_cons, hc] at h
    exact ⟨['#'], digits, by rw [hcolor]; rfl, .inr rfl, digits_of_hex h⟩
  · exact ⟨[], core, rfl, .inl rfl, digits_of_hex h⟩

/-! ### Reading a color -/

theorem parse_eq_ok_iff {text : String} : parse text = .ok color ↔ Denotes text color := by
  rw [← ofText?_eq_some_iff, parse]
  cases ofText? text with
  | none => exact ⟨fun h => (by cases h), fun h => (by cases h)⟩
  | some found => rw [Except.ok.injEq, Option.some.injEq]

theorem parse_eq_error_iff {text : String} {bad : BadColor} :
    parse text = .error bad ↔ (∀ color, ¬Denotes text color) ∧ bad = ⟨Text.trim text⟩ := by
  simp only [← ofText?_eq_some_iff, parse]
  cases ofText? text with
  | none =>
    rw [Except.error.injEq, eq_comm]
    exact ⟨fun h => ⟨fun _ hsome => (by cases hsome), h⟩, And.right⟩
  | some found => exact ⟨fun h => (by cases h), fun h => absurd rfl (h.1 found)⟩

/-- A text is read as a color exactly if it denotes it, and a text that denotes none is refused
as what it is without the spaces around. No text is both a name and digits, and reading by places
comes to the same without a fault. Three or six digits denote a color, three of them the same as
if each were doubled, and what is written of a color is read as it. -/
theorem parse_denotes (text : String) (color : Rgb) :
    (parse text = .ok color ↔ Denotes text color) ∧
    (∀ bad, parse text = .error bad ↔ (∀ other, ¬Denotes text other) ∧ bad = ⟨Text.trim text⟩) ∧
    (∀ name digits other, ¬((Text.Padded name text.toList ∧ Names name color) ∧
      Text.Padded digits text.toList ∧ InDigits digits other)) ∧
    ofPlaces text = .ok (parse text) ∧
    (∀ digits, (∃ denoted, Digits digits denoted) ↔
      (digits.length = 3 ∨ digits.length = 6) ∧ ∀ c ∈ digits, ∃ n, IsDigit c n) ∧
    (∀ a b c, Digits [a, b, c] color ↔ Digits [a, a, b, b, c, c] color) ∧
    ∀ written, written.map Char.toLower = color.hex.toList ∨
        '#' :: written.map Char.toLower = color.hex.toList →
      parse (String.ofList written) = .ok color := by
  refine ⟨parse_eq_ok_iff, fun _ => parse_eq_error_iff, ?_, ofPlaces_eq text,
    fun _ => exists_digits_iff, fun _ _ _ => digits_short_iff, fun written h => ?_⟩
  · rintro name digits other ⟨⟨hname, h⟩, hdigits, h'⟩
    -- Both are the text without the spaces around.
    have heq : name = digits :=
      (Text.trimChars_of_padded hname (solid_core (.inl h))).symm.trans
        (Text.trimChars_of_padded hdigits (solid_core (.inr h')))
    exact not_inDigits_of_names h other (heq ▸ h')
  · refine parse_eq_ok_iff.mpr ⟨written, ?_, .inr (inDigits_of_hex h)⟩
    rw [String.toList_ofList]
    exact Text.padded_self written

end Rgb

end Vitae
