import Mathlib

/-!
# Values of Floats

A float is 32 bits: a sign, eight bits of exponent and twenty-three digits behind a
leading one that is not written down. Here its value is a fraction. The decoded form,
a sign, a significand and an exponent, is not unique as such, since digits can be
traded for exponent; the one that comes from bits is, and for it the order of the
floats is the order of the values.

## Main definitions

* `Binary32.value`: The number that a float stands for.
* `Binary32.Held`, `Binary32.Canonical`: The decoded form that bits have.
* `Binary32.ofParts`: A decoded float from its parts, zeros included.

## Theorems

* `Binary32.value_eq`: The value by the bits.
* `Binary32.le_iff`, `Binary32.lt_iff`: Floats are in the order of their values.
* `Binary32.unpack_pack`: Encoding a float of ordinary size and decoding it gives it back.
-/

namespace Vitae

namespace Binary32

open Float.Model (UnpackedFloat Format)
open Float.Model.UnpackedFloat (Sign unpack unpackSign unpackExponent unpackMantissa
  pack packComponents)

/-- The number that a decoded float stands for. Infinities and what is no number stand
for none, and count as zero. -/
def valueOf : UnpackedFloat → ℚ
  | .finite s m e _ => s.apply m * 2 ^ e
  | _ => 0

/-- The number that a float stands for. -/
def value (x : Float32) : ℚ :=
  valueOf x.toModel.unpack

/-- A significand and an exponent as a float holds them. The significand has as many
digits as there is room for, unless the exponent is the least. -/
structure Held (m : ℕ) (e : ℤ) : Prop where
  lt : m < 2 ^ 24
  least : -149 ≤ e
  full : 2 ^ 23 ≤ m ∨ e = -149

/-- A decoded float that is a number, in the form that floats are held in. -/
def Canonical : UnpackedFloat → Prop
  | .finite _ m e _ => Held m e
  | .zero _ => True
  | _ => False

theorem Held.lt_of_lt {m m' : ℕ} {e e' : ℤ} (h : Held m e) (h' : Held m' e') (he : e < e') :
    (m : ℚ) * 2 ^ e < m' * 2 ^ e' := by
  have hfull : 2 ^ 23 ≤ m' := h'.full.resolve_right (by have := h.least; omega)
  calc (m : ℚ) * 2 ^ e < 2 ^ (24 : ℕ) * 2 ^ e := by
        have := h.lt
        gcongr
        exact_mod_cast this
    _ = 2 ^ (23 : ℕ) * 2 ^ (e + 1) := by rw [zpow_add_one₀ two_ne_zero]; ring
    _ ≤ 2 ^ (23 : ℕ) * 2 ^ e' := by
        gcongr
        · norm_num
        · omega
    _ ≤ m' * 2 ^ e' := by
        gcongr
        exact_mod_cast hfull

theorem compare_held {m m' : ℕ} {e e' : ℤ} (h : Held m e) (h' : Held m' e') :
    (compare e e').then (compare m m') = compare ((m : ℚ) * 2 ^ e) (m' * 2 ^ e') := by
  rcases lt_trichotomy e e' with he | rfl | he
  · rw [compare_lt_iff_lt.mpr he, compare_lt_iff_lt.mpr (h.lt_of_lt h' he)]
    rfl
  · have hpos : (0 : ℚ) < 2 ^ e := by positivity
    rw [compare_eq_iff_eq.mpr rfl, Ordering.then]
    rcases lt_trichotomy m m' with hm | rfl | hm
    · rw [compare_lt_iff_lt.mpr hm, compare_lt_iff_lt.mpr]
      exact mul_lt_mul_of_pos_right (by exact_mod_cast hm) hpos
    · rw [compare_eq_iff_eq.mpr rfl, compare_eq_iff_eq.mpr rfl]
    · rw [compare_gt_iff_gt.mpr hm, compare_gt_iff_gt.mpr]
      exact mul_lt_mul_of_pos_right (by exact_mod_cast hm) hpos
  · rw [compare_gt_iff_gt.mpr he, compare_gt_iff_gt.mpr (h'.lt_of_lt h he)]
    rfl

theorem compare_neg (a b : ℚ) : compare (-a) (-b) = (compare a b).swap := by
  rcases lt_trichotomy a b with h | rfl | h
  · rw [compare_lt_iff_lt.mpr h, compare_gt_iff_gt.mpr (neg_lt_neg h)]
    rfl
  · rw [compare_eq_iff_eq.mpr rfl, compare_eq_iff_eq.mpr rfl]
    rfl
  · rw [compare_gt_iff_gt.mpr h, compare_lt_iff_lt.mpr (neg_lt_neg h)]
    rfl

theorem valueOf_positive {m : ℕ} (e : ℤ) (h : 0 < m) :
    valueOf (.finite .positive m e h) = m * 2 ^ e :=
  rfl

theorem apply_negative_mul (m : ℕ) (q : ℚ) : (Sign.negative.apply m : ℚ) * q = -(m * q) := by
  rw [Sign.apply, Int.cast_neg, Int.cast_natCast, neg_mul]

theorem valueOf_negative {m : ℕ} (e : ℤ) (h : 0 < m) :
    valueOf (.finite .negative m e h) = -(m * 2 ^ e) :=
  apply_negative_mul m _

/-- Comparing decoded floats compares what they stand for. -/
theorem compare_eq {a b : UnpackedFloat} (ha : Canonical a) (hb : Canonical b) :
    a.compare b = some (compare (valueOf a) (valueOf b)) := by
  have hpos : ∀ {m : ℕ} (e : ℤ), 0 < m → (0 : ℚ) < m * 2 ^ e := by
    intro m e hm
    have hm : (0 : ℚ) < m := by exact_mod_cast hm
    positivity
  cases a with
  | infinity s => exact ha.elim
  | notANumber => exact ha.elim
  | zero s =>
    cases b with
    | infinity t => exact hb.elim
    | notANumber => exact hb.elim
    | zero t => rfl
    | finite t m e hm =>
      cases t with
      | positive => exact congrArg some (compare_lt_iff_lt.mpr (hpos e hm)).symm
      | negative =>
        refine congrArg some (compare_gt_iff_gt.mpr ?_).symm
        rw [valueOf_negative]
        exact neg_lt_zero.mpr (hpos e hm)
  | finite s m e hm =>
    cases b with
    | infinity t => exact hb.elim
    | notANumber => exact hb.elim
    | zero t =>
      cases s with
      | positive => exact congrArg some (compare_gt_iff_gt.mpr (hpos e hm)).symm
      | negative =>
        refine congrArg some (compare_lt_iff_lt.mpr ?_).symm
        rw [valueOf_negative]
        exact neg_lt_zero.mpr (hpos e hm)
    | finite t m' e' hm' =>
      have hheld := compare_held ha hb
      cases s with
      | positive =>
        cases t with
        | positive => exact congrArg some hheld
        | negative =>
          refine congrArg some (compare_gt_iff_gt.mpr ?_).symm
          rw [valueOf_positive, valueOf_negative]
          linarith [hpos e hm, hpos e' hm']
      | negative =>
        cases t with
        | positive =>
          refine congrArg some (compare_lt_iff_lt.mpr ?_).symm
          rw [valueOf_positive, valueOf_negative]
          linarith [hpos e hm, hpos e' hm']
        | negative =>
          -- Below zero the order of the magnitudes is turned around.
          rw [valueOf_negative, valueOf_negative, compare_neg, ← hheld]
          rfl

section Fields

theorem toNat_unpackExponent (b : BitVec 32) :
    (@unpackExponent Format.binary32 b).toNat = b.toNat / 2 ^ 23 % 256 := by
  simp [unpackExponent, BitVec.extractLsb_toNat, Nat.shiftRight_eq_div_pow]

theorem toNat_unpackMantissa (b : BitVec 32) :
    (@unpackMantissa Format.binary32 b).toNat = b.toNat % 2 ^ 23 := by
  simp [unpackMantissa, BitVec.extractLsb_toNat]

theorem toNat_unpackSign (b : BitVec 32) :
    (@unpackSign Format.binary32 b).toNat = b.toNat / 2 ^ 31 % 2 := by
  unfold unpackSign
  simp [BitVec.extractLsb_toNat, Nat.shiftRight_eq_div_pow]

theorem toNat_append_one (m : BitVec 23) : (1#1 ++ m).toNat = 2 ^ 23 + m.toNat := by
  rw [BitVec.toNat_append, ← Nat.shiftLeft_add_eq_or_of_lt m.isLt]
  rfl

end Fields

/-- A decoded float put together from its parts. Without digits it is a zero. -/
def ofParts (s : Sign) (m : ℕ) (e : ℤ) : UnpackedFloat :=
  if h : m = 0 then .zero s else .finite s m e (Nat.pos_of_ne_zero h)

theorem ofParts_of_pos (s : Sign) {m : ℕ} {e : ℤ} (h : 0 < m) :
    ofParts s m e = .finite s m e h :=
  dif_neg h.ne'

@[simp]
theorem valueOf_ofParts (s : Sign) (m : ℕ) (e : ℤ) :
    valueOf (ofParts s m e) = s.apply m * 2 ^ e := by
  unfold ofParts
  split
  · rename_i hm
    cases s <;> simp [valueOf, Sign.apply, hm]
  · rfl

theorem canonical_ofParts (s : Sign) {m : ℕ} {e : ℤ} (h : m ≠ 0 → Held m e) :
    Canonical (ofParts s m e) := by
  unfold ofParts
  split
  · exact True.intro
  · rename_i hm
    exact h hm

/-- The sign that bits stand for. -/
def signOf (bits : ℕ) : Sign :=
  if bits / 2 ^ 31 % 2 = 1 then .negative else .positive

/-- The significand that bits stand for, the leading digit included. -/
def significandOf (bits : ℕ) : ℕ :=
  if bits / 2 ^ 23 % 256 = 0 then bits % 2 ^ 23 else 2 ^ 23 + bits % 2 ^ 23

/-- The exponent that bits stand for. -/
def exponentOf (bits : ℕ) : ℤ :=
  if bits / 2 ^ 23 % 256 = 0 then -149 else (bits / 2 ^ 23 % 256 : ℕ) - 150

theorem ofBitVec_unpackSign (b : BitVec 32) :
    Sign.ofBitVec (@unpackSign Format.binary32 b) = signOf b.toNat := by
  have hsign := toNat_unpackSign b
  rw [Sign.ofBitVec, signOf, ← hsign]
  rcases BitVec.eq_zero_or_eq_one (@unpackSign Format.binary32 b) with hs | hs <;>
    rw [hs] <;> rfl

/-- Bits are decoded field by field, unless they stand for no number. -/
theorem unpack_eq_ofParts {b : BitVec 32} (h : b.toNat / 2 ^ 23 % 256 ≠ 255) :
    unpack Format.binary32 b =
      ofParts (signOf b.toNat) (significandOf b.toNat) (exponentOf b.toNat) := by
  have hexponent := toNat_unpackExponent b
  have hmantissa := toNat_unpackMantissa b
  have hones : @unpackExponent Format.binary32 b ≠ -1#8 := by
    intro hones
    rw [← hexponent, hones] at h
    exact h rfl
  unfold unpack
  dsimp only
  rw [if_neg hones, ofBitVec_unpackSign]
  by_cases hzero : b.toNat / 2 ^ 23 % 256 = 0
  · have hbits : @unpackExponent Format.binary32 b = 0#8 :=
      BitVec.eq_of_toNat_eq (hexponent.trans hzero)
    rw [if_pos hbits, significandOf, exponentOf, if_pos hzero, if_pos hzero, ← hmantissa]
    by_cases hm : @unpackMantissa Format.binary32 b = 0#23
    · rw [dif_pos hm, hm]
      rfl
    · have hpos : 0 < (@unpackMantissa Format.binary32 b).toNat :=
        Nat.pos_of_ne_zero fun hnone => hm (BitVec.eq_of_toNat_eq hnone)
      rw [dif_neg hm, ofParts_of_pos _ hpos, hbits]
      rfl
  · have hbits : @unpackExponent Format.binary32 b ≠ 0#8 := by
      intro hbits
      rw [← hexponent, hbits] at hzero
      exact hzero rfl
    -- The digit in front is not written down, so there always is one.
    rw [if_neg hbits, significandOf, exponentOf, if_neg hzero, if_neg hzero, ← hmantissa,
      ← toNat_append_one, ofParts_of_pos _ (by rw [toNat_append_one]; omega), ← hexponent]
    rfl

/-- The greatest exponent is that of infinities and of what is no number. -/
theorem exponent_ne_of_isFinite {x : Float32} (h : x.isFinite = true) :
    x.toBits.toNat / 2 ^ 23 % 256 ≠ 255 := by
  intro hfield
  have hones : @unpackExponent Format.binary32 x.toBits.toBitVec = -1#8 :=
    BitVec.eq_of_toNat_eq ((toNat_unpackExponent _).trans hfield)
  change (unpack Format.binary32 x.toBits.toBitVec).isFinite = true at h
  unfold unpack at h
  rw [if_pos hones] at h
  split at h <;> exact Bool.false_ne_true h

theorem unpack_of_isFinite {x : Float32} (h : x.isFinite = true) :
    x.toModel.unpack = ofParts (signOf x.toBits.toNat) (significandOf x.toBits.toNat)
      (exponentOf x.toBits.toNat) :=
  unpack_eq_ofParts (exponent_ne_of_isFinite h)

theorem held_of_bits (bits : ℕ) :
    Held (significandOf bits) (exponentOf bits) := by
  have hlt : bits % 2 ^ 23 < 2 ^ 23 := Nat.mod_lt _ (by decide)
  unfold significandOf exponentOf
  split
  · exact ⟨by omega, le_refl _, .inr rfl⟩
  · exact ⟨by omega, by omega, .inl (by omega)⟩

theorem canonical_unpack {x : Float32} (h : x.isFinite = true) : Canonical x.toModel.unpack := by
  rw [unpack_of_isFinite h]
  exact canonical_ofParts _ fun _ => held_of_bits _

/-- The number that a float stands for, by its bits. -/
theorem value_eq {x : Float32} (h : x.isFinite = true) :
    value x = (signOf x.toBits.toNat).apply (significandOf x.toBits.toNat) *
      2 ^ exponentOf x.toBits.toNat := by
  rw [value, unpack_of_isFinite h, valueOf_ofParts]

/-- Floats that are numbers are in the order of the numbers. -/
theorem le_iff {x y : Float32} (hx : x.isFinite = true) (hy : y.isFinite = true) :
    x ≤ y ↔ value x ≤ value y := by
  have hle : x ≤ y ↔ x.toModel.unpack.le y.toModel.unpack = true := by
    change Float32.le x y = true ↔ _
    rw [Float32.le, decide_eq_true_iff]
    rfl
  rw [hle, UnpackedFloat.le, compare_eq (canonical_unpack hx) (canonical_unpack hy),
    Option.any_some, Ordering.isLE_iff_ne_gt]
  exact compare_le_iff_le

theorem lt_iff {x y : Float32} (hx : x.isFinite = true) (hy : y.isFinite = true) :
    x < y ↔ value x < value y := by
  have hlt : x < y ↔ x.toModel.unpack.lt y.toModel.unpack = true := by
    change Float32.lt x y = true ↔ _
    rw [Float32.lt, decide_eq_true_iff]
    rfl
  rw [hlt, UnpackedFloat.lt, compare_eq (canonical_unpack hx) (canonical_unpack hy),
    beq_iff_eq, Option.some_inj, compare_lt_iff_lt]
  rfl

theorem toNat_packComponents (s : Sign) (e : BitVec 8) (m : BitVec 23) :
    (packComponents Format.binary32 s e m).toNat =
      s.toBitVec.toNat * 2 ^ 31 + e.toNat * 2 ^ 23 + m.toNat := by
  rw [packComponents, BitVec.toNat_append, ← Nat.shiftLeft_add_eq_or_of_lt m.isLt,
    BitVec.toNat_append, ← Nat.shiftLeft_add_eq_or_of_lt e.isLt, Nat.shiftLeft_eq, Nat.shiftLeft_eq]
  have : s.toBitVec.toNat < 2 := s.toBitVec.isLt
  omega

/-- The fields of bits that were put together. -/
theorem unpack_packComponents (s : Sign) {e m : ℕ} (he : e < 255) (hm : m < 2 ^ 23) :
    unpack Format.binary32
        (packComponents Format.binary32 s (BitVec.ofNat 8 e) (BitVec.ofNat 23 m)) =
      if e = 0 then ofParts s m (-149) else ofParts s (2 ^ 23 + m) (e - 150) := by
  have hnat := toNat_packComponents s (BitVec.ofNat 8 e) (BitVec.ofNat 23 m)
  rw [BitVec.toNat_ofNat, BitVec.toNat_ofNat, Nat.mod_eq_of_lt (by omega : e < 2 ^ 8),
    Nat.mod_eq_of_lt hm] at hnat
  generalize packComponents Format.binary32 s (BitVec.ofNat 8 e) (BitVec.ofNat 23 m) = b at hnat
  have hs : s.toBitVec.toNat < 2 := s.toBitVec.isLt
  have hexponent : b.toNat / 2 ^ 23 % 256 = e := by omega
  have hmantissa : b.toNat % 2 ^ 23 = m := by omega
  have hsign : signOf b.toNat = s := by
    have hbit : b.toNat / 2 ^ 31 % 2 = s.toBitVec.toNat := by omega
    rw [signOf, hbit]
    cases s <;> rfl
  rw [unpack_eq_ofParts (by omega), hsign, significandOf, exponentOf, hexponent, hmantissa]
  split <;> rfl

/-- A float that is not too large is decoded as it was encoded. -/
theorem unpack_pack (s : Sign) {m : ℕ} {e : ℤ} (h : Held m e) (he : e ≤ 104) :
    unpack Format.binary32 (pack Format.binary32 (ofParts s m e)) = ofParts s m e := by
  by_cases hm : m = 0
  · subst hm
    exact unpack_packComponents s (m := 0) (by decide : 0 < 255) (by decide)
  · have hpos : 0 < m := Nat.pos_of_ne_zero hm
    have hleast := h.least
    rw [ofParts_of_pos s hpos]
    obtain ⟨biased, hbiased⟩ : ∃ biased : ℕ, (e + 127 + 23).toNat = biased := ⟨_, rfl⟩
    have hroom : ¬2 ^ 8 ≤ biased + 1 := by omega
    change unpack Format.binary32 (if 2 ^ 8 ≤ (e + 127 + 23).toNat + 1 then _
      else if m.log2 + 1 = 24 then
        packComponents Format.binary32 s (BitVec.ofNat 8 (e + 127 + 23).toNat) (BitVec.ofNat 23 m)
      else packComponents Format.binary32 s 0#8 (BitVec.ofNat 23 m)) = _
    rw [hbiased, if_neg hroom]
    have hlt := h.lt
    by_cases hfull : 2 ^ 23 ≤ m
    · have hlog : m.log2 + 1 = 24 := by
        have hle := (Nat.le_log2 hm).mpr hfull
        have hgt := (Nat.log2_lt hm).mpr hlt
        omega
      -- The leading digit is left out of the bits, and the exponent tells that it is there.
      have hbits : BitVec.ofNat 23 m = BitVec.ofNat 23 (m - 2 ^ 23) := by
        refine BitVec.eq_of_toNat_eq ?_
        rw [BitVec.toNat_ofNat, BitVec.toNat_ofNat]
        omega
      rw [if_pos hlog, hbits, unpack_packComponents s (by omega) (by omega), if_neg (by omega),
        Nat.add_sub_cancel' hfull, ← ofParts_of_pos s hpos]
      congr 1
      omega
    · have hlog : ¬m.log2 + 1 = 24 := by
        have hgt := (Nat.log2_lt hm).mpr (Nat.lt_of_not_le hfull)
        omega
      have he := h.full.resolve_left hfull
      subst he
      rw [if_neg hlog, ← ofParts_of_pos s hpos]
      exact unpack_packComponents s (e := 0) (by decide) (Nat.lt_of_not_le hfull)

end Binary32

end Vitae
