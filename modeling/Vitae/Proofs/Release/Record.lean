import Vitae.Proofs.Text.Utf8
import Vitae.Release.Manifest

/-!
# Reading Back the Record

The record of an installation is written as JSON and read as JSON, by functions that
know nothing of each other: the writer escapes what a string must not hold, and the
reader resolves every escape that JSON has. What is written is read back as it was, if
the moment in it is one (`parse_text`).

A character is read back whatever follows it (`stringBytes_jsonChar`), so a text is read
back by induction, and with it every key and value of the record. What is left of the
reader is a loop over the members, which takes one step for each (`fromMembers_member`).

## Main definitions

* `Json.IsPlain`: A byte that stands for itself in a string.
* `Installed.escaped`: A text as it stands between quotes.

## Theorems

* `Installed.stringBytes_jsonChar`: A character is read back, whatever follows.
* `Installed.string_escaped`: A text is read back up to the closing quote.
* `Json.Record.fromMembers_member`, `Json.Record.fromMembers_end`: The steps of the loop.
* `Installed.parse_text`: A record is read back.
-/

namespace Vitae

namespace Utf8

theorem encode_ofList (cs : List Char) :
    encode (String.ofList cs) = cs.flatMap String.utf8EncodeChar := by
  rw [encode, String.toList_ofList]

/-- The bytes of a character beyond ASCII are beyond ASCII as well. -/
theorem le_of_mem_utf8EncodeChar {c : Char} (hc : 0x80 ≤ c.toNat) {b : UInt8}
    (hb : b ∈ String.utf8EncodeChar c) : 0x80 ≤ b := by
  have hvalid : c.toNat < 0xD800 ∨ 0xDFFF < c.toNat ∧ c.toNat < 0x110000 := c.valid
  have hfirst : ∀ k m : Nat, 128 ≤ k → k + m < 256 → 0x80 ≤ UInt8.ofNat (k + m) := by
    intro k m hk hm
    rw [UInt8.le_iff_toNat_le, UInt8.toNat_ofNat', Nat.mod_eq_of_lt hm]
    exact Nat.le_trans hk (Nat.le_add_right k m)
  have htail : ∀ n, 0x80 ≤ tailByte n := fun n => le_tailByte (Nat.le_add_left 128 _)
  by_cases htwo : c.toNat < 0x800
  · rw [utf8EncodeChar_two hc htwo] at hb
    simp only [List.mem_cons, List.not_mem_nil, or_false] at hb
    rcases hb with rfl | rfl
    · exact hfirst _ _ (by decide) (by omega)
    · exact htail _
  · by_cases hthree : c.toNat < 0x10000
    · rw [utf8EncodeChar_three (by omega) hthree] at hb
      simp only [List.mem_cons, List.not_mem_nil, or_false] at hb
      rcases hb with rfl | rfl | rfl
      · exact hfirst _ _ (by decide) (by omega)
      · exact htail _
      · exact htail _
    · rw [utf8EncodeChar_four (by omega)] at hb
      simp only [List.mem_cons, List.not_mem_nil, or_false] at hb
      rcases hb with rfl | rfl | rfl | rfl
      · exact hfirst _ _ (by decide) (by omega)
      · exact htail _
      · exact htail _
      · exact htail _

end Utf8

namespace Json

/-! ### Strings -/

@[simp]
theorem prepend_prepend (xs ys : Bytes) (read : Except Fault (Bytes × Bytes)) :
    prepend xs (prepend ys read) = prepend (xs ++ ys) read := by
  cases read with
  | error fault => rfl
  | ok result => simp only [prepend, Except.map, List.append_assoc]

theorem prepend_nil (read : Except Fault (Bytes × Bytes)) : prepend [] read = read := by
  cases read <;> rfl

/-- A byte that stands for itself in a string. -/
structure IsPlain (b : UInt8) : Prop where
  printable : ¬b < 0x20
  ne_quote : b ≠ 0x22
  ne_backslash : b ≠ 0x5C

theorem stringBytes_plain {b : UInt8} (h : IsPlain b) (rest : Bytes) :
    stringBytes (b :: rest) = prepend [b] (stringBytes rest) := by
  have hquote := h.ne_quote
  have hbackslash := h.ne_backslash
  rw [stringBytes, if_neg h.printable] <;> simp_all

theorem stringBytes_plains {bytes : Bytes} (h : ∀ b ∈ bytes, IsPlain b) (rest : Bytes) :
    stringBytes (bytes ++ rest) = prepend bytes (stringBytes rest) := by
  induction bytes with
  | nil => exact (prepend_nil _).symm
  | cons b bytes ih =>
    have hrest := ih fun other hother => h other (List.mem_cons_of_mem _ hother)
    rw [List.cons_append, stringBytes_plain (h b List.mem_cons_self), hrest, prepend_prepend,
      List.singleton_append]

theorem stringBytes_simple {b byte : UInt8} (h : simpleEscape? b = some byte) (rest : Bytes) :
    stringBytes (0x5C :: b :: rest) = prepend [byte] (stringBytes rest) := by
  have hb : b ≠ 0x75 := by
    rintro rfl
    cases h
  rw [stringBytes, h] <;> simp_all

theorem stringBytes_unit {a b c d : UInt8} {unit : Nat} (h : hexUnit? a b c d = some unit)
    (hunit : unit < 0xD800) (rest : Bytes) :
    stringBytes (0x5C :: 0x75 :: a :: b :: c :: d :: rest) =
      prepend (String.utf8EncodeChar (Char.ofNat unit)) (stringBytes rest) := by
  have hbasic : (unit < 0xD800 || 0xDFFF < unit) = true := by
    rw [decide_eq_true hunit, Bool.true_or]
  rw [stringBytes, h]
  exact if_pos hbasic

/-! ### Members -/

namespace Record

variable {σ : Type} {r : Record σ} {depth fuel : Nat} {first : Bool} {seen : List String} {acc : σ}
  {bytes text behind rest : Bytes} {key : String} {field : Field σ} {update : σ → σ}

/-- A member of a known name that has not been given yet. -/
theorem fromMembers_member (hkey : nextKey first bytes = .ok (some (key, text)))
    (hfield : r.fields.find? (fun f => f.key == key) = some field)
    (hseen : seen.contains key = false) (hcolon : passColon text = .ok behind)
    (hread : field.read depth behind = .ok (update, rest)) :
    r.fromMembers depth (fuel + 1) first seen acc bytes =
      r.fromMembers depth fuel false (key :: seen) (update acc) rest := by
  simp only [fromMembers, hkey, hfield, hseen, hcolon, hread, bind, Except.bind, Bool.false_eq_true,
    if_false]

/-- The end of an object in which no field is missing. -/
theorem fromMembers_end (hkey : nextKey first bytes = .ok none) (hmissing : r.firstMissing seen = none) :
    r.fromMembers depth (fuel + 1) first seen acc bytes = .ok (acc, bytes) := by
  simp only [fromMembers, hkey, hmissing, bind, Except.bind]

end Record

end Json

namespace Installed

open Json

/-! ### Texts -/

/-- A text as it stands between quotes. -/
def escaped (text : String) : Bytes :=
  (text.toList.flatMap jsonChar).flatMap String.utf8EncodeChar

theorem isPlain_of_mem {c : Char} (hquote : c ≠ '"') (hbackslash : c ≠ '\\')
    (hprintable : ¬c.toNat < 0x20) {b : UInt8} (hb : b ∈ String.utf8EncodeChar c) : IsPlain b := by
  by_cases hascii : c.toNat < 0x80
  · rw [Utf8.utf8EncodeChar_one hascii, List.mem_singleton] at hb
    have hback : b.toNat = c.toNat := by
      rw [hb, UInt8.toNat_ofNat']
      omega
    -- A byte of ASCII is the number of its character.
    have hchar : ∀ d : Char, d.toNat = b.toNat → c = d := fun d hd => by
      rw [← Char.ofNat_toNat c, ← hback, ← hd, Char.ofNat_toNat]
    refine ⟨?_, ?_, ?_⟩
    · rw [UInt8.lt_iff_toNat_lt, hback]
      exact hprintable
    · rintro rfl
      exact hquote (hchar '"' rfl)
    · rintro rfl
      exact hbackslash (hchar '\\' rfl)
  · have hle := UInt8.le_iff_toNat_le.mp
      (Utf8.le_of_mem_utf8EncodeChar (Nat.le_of_not_lt hascii) hb)
    change 128 ≤ b.toNat at hle
    refine ⟨?_, ?_, ?_⟩
    · rw [UInt8.lt_iff_toNat_lt]
      change ¬b.toNat < 32
      omega
    · rintro rfl
      exact absurd hle (by decide)
    · rintro rfl
      exact absurd hle (by decide)

/-- A character is read back, whatever follows. -/
theorem stringBytes_jsonChar (c : Char) (rest : Bytes) :
    stringBytes ((jsonChar c).flatMap String.utf8EncodeChar ++ rest) =
      prepend (String.utf8EncodeChar c) (stringBytes rest) := by
  -- The escapes of single characters are checked one by one.
  have hshort : ∀ n, c.toNat = n → c = Char.ofNat n := fun n h => by
    rw [← h, Char.ofNat_toNat]
  unfold jsonChar
  simp only
  split_ifs with hquote hbackslash hb ht hn hf hr hcontrol
  · subst hquote
    exact stringBytes_simple rfl rest
  · subst hbackslash
    exact stringBytes_simple rfl rest
  · rw [hshort _ hb]
    exact stringBytes_simple rfl rest
  · rw [hshort _ ht]
    exact stringBytes_simple rfl rest
  · rw [hshort _ hn]
    exact stringBytes_simple rfl rest
  · rw [hshort _ hf]
    exact stringBytes_simple rfl rest
  · rw [hshort _ hr]
    exact stringBytes_simple rfl rest
  · -- Any other control character is written with its number.
    have hall : ∀ n < 0x20,
        (['\\', 'u', '0', '0', (n / 16).digitChar, (n % 16).digitChar].flatMap
          String.utf8EncodeChar).drop 2 = [0x30, 0x30, UInt8.ofNat (n / 16).digitChar.toNat,
            UInt8.ofNat (n % 16).digitChar.toNat] ∧
        hexUnit? 0x30 0x30 (UInt8.ofNat (n / 16).digitChar.toNat)
          (UInt8.ofNat (n % 16).digitChar.toNat) = some n := by
      decide
    obtain ⟨hdigits, hunit⟩ := hall c.toNat hcontrol
    have hbytes : (['\\', 'u', '0', '0', (c.toNat / 16).digitChar, (c.toNat % 16).digitChar].flatMap
        String.utf8EncodeChar) = 0x5C :: 0x75 :: [0x30, 0x30,
          UInt8.ofNat (c.toNat / 16).digitChar.toNat, UInt8.ofNat (c.toNat % 16).digitChar.toNat] := by
      rw [← hdigits]
      rfl
    rw [hbytes]
    simp only [List.cons_append, List.nil_append]
    rw [stringBytes_unit hunit (Nat.lt_trans hcontrol (by decide)), Char.ofNat_toNat]
  · rw [List.flatMap_singleton]
    exact stringBytes_plains (fun b hb => isPlain_of_mem hquote hbackslash hcontrol hb) rest

/-- A text is read back up to the closing quote. -/
theorem string_escaped (text : String) (rest : Bytes) :
    string (escaped text ++ 0x22 :: rest) = .ok (text, rest) := by
  have hbytes : ∀ cs : List Char,
      stringBytes ((cs.flatMap jsonChar).flatMap String.utf8EncodeChar ++ 0x22 :: rest) =
        .ok (cs.flatMap String.utf8EncodeChar, rest) := by
    intro cs
    induction cs with
    | nil => rfl
    | cons c cs ih =>
      rw [List.flatMap_cons, List.flatMap_append, List.append_assoc, stringBytes_jsonChar, ih]
      rfl
  have hdecode : Utf8.decode? (text.toList.flatMap String.utf8EncodeChar) = some text :=
    Utf8.decode?_eq_some_iff.mpr rfl
  simp only [string, escaped, hbytes, hdecode, bind, Except.bind]

theorem encode_jsonString (text : String) (rest : Bytes) :
    Utf8.encode (jsonString text) ++ rest = 0x22 :: (escaped text ++ 0x22 :: rest) := by
  rw [jsonString, Utf8.encode_ofList, List.flatMap_append, List.flatMap_cons, List.append_assoc,
    List.append_assoc]
  rfl

/-! ### The record -/

theorem nextKey_first (key : String) (rest : Bytes) :
    nextKey true (0x0A :: 0x20 :: 0x20 :: 0x22 :: (escaped key ++ 0x22 :: rest)) =
      .ok (some (key, rest)) := by
  change (do .ok (some (← string (escaped key ++ 0x22 :: rest)))) = _
  rw [string_escaped]
  rfl

theorem nextKey_next (key : String) (rest : Bytes) :
    nextKey false (0x2C :: 0x0A :: 0x20 :: 0x20 :: 0x22 :: (escaped key ++ 0x22 :: rest)) =
      .ok (some (key, rest)) := by
  change (do .ok (some (← string (escaped key ++ 0x22 :: rest)))) = _
  rw [string_escaped]
  rfl

theorem textOf_escaped (expected : String) (depth : Nat) (text : String) (rest : Bytes) :
    textOf expected depth (0x20 :: 0x22 :: (escaped text ++ 0x22 :: rest)) = .ok (text, rest) :=
  string_escaped text rest

theorem timestamp_escaped {moment : String} (h : checkTimestamp moment = .ok ()) (depth : Nat)
    (rest : Bytes) :
    timestamp depth (0x20 :: 0x22 :: (escaped moment ++ 0x22 :: rest)) = .ok (moment, rest) := by
  simp only [timestamp, textOf_escaped, h, bind, Except.bind]

/-- A record as it is written, behind the brace that opens it. -/
def members (r : Installed) : Bytes :=
  0x0A :: 0x20 :: 0x20 :: 0x22 :: (escaped "version" ++ 0x22 :: 0x3A ::
    0x20 :: 0x22 :: (escaped r.version ++ 0x22 ::
  0x2C :: 0x0A :: 0x20 :: 0x20 :: 0x22 :: (escaped "artifact" ++ 0x22 :: 0x3A ::
    0x20 :: 0x22 :: (escaped r.artifact ++ 0x22 ::
  0x2C :: 0x0A :: 0x20 :: 0x20 :: 0x22 :: (escaped "installed_at" ++ 0x22 :: 0x3A ::
    0x20 :: 0x22 :: (escaped r.moment ++ 0x22 :: [0x0A, 0x7D]))))))

theorem encode_text (r : Installed) : Utf8.encode r.text = 0x7B :: members r := by
  have hversion : Utf8.encode "\x7b\n  \"version\": " =
      [0x7B, 0x0A, 0x20, 0x20, 0x22] ++ (escaped "version" ++ [0x22, 0x3A, 0x20]) := by decide
  have hartifact : Utf8.encode ",\n  \"artifact\": " =
      [0x2C, 0x0A, 0x20, 0x20, 0x22] ++ (escaped "artifact" ++ [0x22, 0x3A, 0x20]) := by decide
  have hmoment : Utf8.encode ",\n  \"installed_at\": " =
      [0x2C, 0x0A, 0x20, 0x20, 0x22] ++ (escaped "installed_at" ++ [0x22, 0x3A, 0x20]) := by decide
  have hclose : Utf8.encode "\n\x7d" = [0x0A, 0x7D] := by decide
  unfold text members
  simp only [Utf8.encode_append, hversion, hartifact, hmoment, hclose, List.append_assoc,
    List.cons_append, List.nil_append, encode_jsonString]

theorem length_members (r : Installed) : ∃ n, (members r).length = n + 3 := by
  refine ⟨(members r).length - 3, (Nat.sub_add_cancel ?_).symm⟩
  simp only [members, List.length_cons]
  omega

/-- Each of the three members takes one step, and the brace behind them one more. -/
theorem fromMembers_members {r : Installed} (h : checkTimestamp r.moment = .ok ())
    (depth fuel : Nat) :
    record.fromMembers depth (fuel + 4) true [] record.blank (members r) = .ok (r, [0x0A, 0x7D]) := by
  have hversion := textOf_escaped "a string" depth r.version
  have hartifact := textOf_escaped "path string" depth r.artifact
  have hmoment := timestamp_escaped h depth
  unfold members
  rw [Record.fromMembers_member (nextKey_first _ _) rfl rfl rfl (by
      simp only [Field.of, hversion, Except.map]
      rfl),
    Record.fromMembers_member (nextKey_next _ _) rfl rfl rfl (by
      simp only [Field.of, hartifact, Except.map]
      rfl),
    Record.fromMembers_member (nextKey_next _ _) rfl rfl rfl (by
      simp only [Field.of, hmoment, Except.map]
      rfl)]
  exact Record.fromMembers_end rfl rfl

/-- A record is read back as it was, if its moment is one. -/
theorem parse_text {r : Installed} (h : checkTimestamp r.moment = .ok ()) :
    parse (Utf8.encode r.text) = .ok r := by
  obtain ⟨fuel, hfuel⟩ := length_members r
  have hmembers := fromMembers_members h 127 fuel
  rw [parse, encode_text]
  change (do
    let (x, rest) ← (do
      let (x, rest) ← record.fromMembers 127 ((members r).length + 1) true [] record.blank (members r)
      .ok (x, ← closeObject rest))
    if (skipBlanks rest).isEmpty then .ok x else .error .trailingCharacters) = Except.ok r
  rw [hfuel, hmembers]
  rfl

end Installed

end Vitae
