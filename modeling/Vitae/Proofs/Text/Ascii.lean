import Vitae.Text.Utf8

/-!
# ASCII

A text of ASCII characters has one byte for each of them, so places in the text
are places in its bytes and nothing is lost when the bytes are read as characters
again (`characters_encode`).

The characters of a text are bounded from both sides, since a text whose characters
are visible has no line breaks either.

## Main definitions

* `Within`: A list of characters between two bounds.
* `Ascii`, `Visible`: Characters below 128, and those that are no control characters.
* `characters`: Bytes read as characters, one by one.
* `cutAt?`, `slice?`: A text cut at places in its bytes.

## Theorems

* `within_append`, `within_flatMap`: Bounds of texts that are put together.
* `encode_of_ascii`: The bytes of an ASCII text.
* `characters_encode`: The bytes of an ASCII text read back.
* `lt_of_mem_encode`: The bytes of an ASCII text have seven bits.
* `cutAt?_of_ascii`, `slice?_of_ascii`: An ASCII text can be cut at any place in its bytes.
-/

namespace Vitae

/-- A list of characters from `low` on and below `high`. -/
def Within (low high : Nat) (cs : List Char) : Prop :=
  ∀ c ∈ cs, low ≤ c.toNat ∧ c.toNat < high

/-- A list of characters below 128. -/
abbrev Ascii (cs : List Char) : Prop :=
  Within 0 128 cs

/-- A list of ASCII characters that are no control characters. -/
abbrev Visible (cs : List Char) : Prop :=
  Within 32 127 cs

instance (low high : Nat) (cs : List Char) : Decidable (Within low high cs) :=
  List.decidableBAll (fun c : Char => low ≤ c.toNat ∧ c.toNat < high) cs

section Within

variable {low high : Nat}

@[simp]
theorem within_nil : Within low high [] :=
  fun _ h => absurd h List.not_mem_nil

@[simp]
theorem within_cons (c : Char) (cs : List Char) :
    Within low high (c :: cs) ↔ (low ≤ c.toNat ∧ c.toNat < high) ∧ Within low high cs :=
  List.forall_mem_cons

@[simp]
theorem within_append (xs ys : List Char) :
    Within low high (xs ++ ys) ↔ Within low high xs ∧ Within low high ys :=
  List.forall_mem_append

theorem within_flatMap {α : Type} (f : α → List Char) (xs : List α)
    (h : ∀ x ∈ xs, Within low high (f x)) : Within low high (xs.flatMap f) := by
  intro c hc
  rcases List.mem_flatMap.mp hc with ⟨x, hx, hcx⟩
  exact h x hx c hcx

end Within

theorem Visible.ascii {cs : List Char} (h : Visible cs) : Ascii cs :=
  fun c hc => ⟨Nat.zero_le _, Nat.lt_succ_of_lt (h c hc).2⟩

/-- Characters that can be seen do not break a line. -/
theorem Visible.newline_notMem {cs : List Char} (h : Visible cs) : '\n' ∉ cs :=
  fun hc => absurd (h '\n' hc).1 (by decide)

namespace Utf8

/-- Bytes read as characters, one by one. -/
def characters (bytes : Bytes) : List Char :=
  bytes.map (fun b => Char.ofNat b.toNat)

theorem toNat_byte {c : Char} (h : c.toNat < 128) : c.val.toUInt8.toNat = c.toNat := by
  rw [UInt32.toNat_toUInt8]
  exact Nat.mod_eq_of_lt (Nat.lt_trans h (by decide))

theorem utf8Size_eq_one {c : Char} (h : c.toNat < 128) : c.utf8Size = 1 := by
  rw [Char.utf8Size_eq_one_iff, UInt32.le_iff_toNat_le]
  exact Nat.le_of_lt_succ h

theorem encode_of_ascii {cs : List Char} (h : Ascii cs) :
    encode (String.ofList cs) = cs.map (fun c => c.val.toUInt8) := by
  rw [encode, String.toList_ofList]
  induction cs with
  | nil => rfl
  | cons c rest ih =>
      rcases (within_cons c rest).mp h with ⟨hc, hrest⟩
      -- A character below 128 takes one byte, which is its number.
      rw [List.flatMap_cons, List.map_cons,
        String.utf8EncodeChar_eq_singleton (utf8Size_eq_one hc.2), ih hrest, List.singleton_append]

theorem characters_encode {cs : List Char} (h : Ascii cs) :
    characters (encode (String.ofList cs)) = cs := by
  rw [encode_of_ascii h, characters, List.map_map]
  refine (List.map_congr_left fun c hc => ?_).trans (List.map_id cs)
  rw [Function.comp_apply, toNat_byte (h c hc).2, Char.ofNat_toNat, id]

theorem length_encode {cs : List Char} (h : Ascii cs) :
    (encode (String.ofList cs)).length = cs.length := by
  rw [encode_of_ascii h, List.length_map]

/-- The bytes of an ASCII text have seven bits. -/
theorem lt_of_mem_encode {cs : List Char} (h : Ascii cs) {b : UInt8}
    (hb : b ∈ encode (String.ofList cs)) : b < 0x80 := by
  rw [encode_of_ascii h] at hb
  rcases List.mem_map.mp hb with ⟨c, hc, rfl⟩
  rw [UInt8.lt_iff_toNat_lt, toNat_byte (h c hc).2]
  exact (h c hc).2

/-! ### Cutting at places in the bytes -/

/-- A text cut behind a number of its bytes, if a character ends there. -/
def cutAt? : Nat → List Char → Option (List Char × List Char)
  | 0, cs => some ([], cs)
  | _ + 1, [] => none
  | n + 1, c :: cs =>
    if c.utf8Size ≤ n + 1 then
      (cutAt? (n + 1 - c.utf8Size) cs).map fun (front, back) => (c :: front, back)
    else none
termination_by _ cs => cs.length

/-- The part of a text between two places in its bytes, if both are between characters. -/
def slice? (first last : Nat) (cs : List Char) : Option (List Char) := do
  let (front, _) ← cutAt? last cs
  let (_, part) ← cutAt? first front
  some part

/-- In an ASCII text every place up to its end is between characters. -/
theorem cutAt?_of_ascii {cs : List Char} (h : Ascii cs) {n : Nat} (hn : n ≤ cs.length) :
    cutAt? n cs = some (cs.take n, cs.drop n) := by
  induction cs generalizing n with
  | nil =>
      rw [Nat.le_zero.mp hn, cutAt?]
      rfl
  | cons c rest ih =>
      rcases (within_cons c rest).mp h with ⟨hc, hrest⟩
      cases n with
      | zero =>
          rw [cutAt?]
          rfl
      | succ n =>
          rw [cutAt?, utf8Size_eq_one hc.2, if_pos (Nat.le_add_left 1 n), Nat.add_sub_cancel,
            ih hrest (Nat.le_of_succ_le_succ hn)]
          rfl

theorem slice?_of_ascii {cs : List Char} (h : Ascii cs) {first last : Nat} (hfirst : first ≤ last)
    (hlast : last ≤ cs.length) : slice? first last cs = some ((cs.take last).drop first) := by
  have hfront : Ascii (cs.take last) := fun c hc => h c (List.mem_of_mem_take hc)
  have hlength : first ≤ (cs.take last).length := by
    rw [List.length_take]
    exact Nat.le_min.mpr ⟨hfirst, Nat.le_trans hfirst hlast⟩
  rw [slice?, cutAt?_of_ascii h hlast]
  change (cutAt? first (cs.take last) >>= fun found => some found.2) = _
  rw [cutAt?_of_ascii hfront hlength]
  rfl

end Utf8

end Vitae
