import Vitae.Proofs.Number.Rounding

/-!
# Quotients of Whole Numbers

A share, one whole number divided by another, as floats have it. Both numbers are made
floats first, and what is too large for that becomes infinity; then the quotient is
rounded. Each step may lose something, so it is not clear from the start what a comparison
with one still says.

It says what it should. Rounding keeps the order, so a number greater than `n` becomes a
float no smaller than `n + 1`, and as long as `n + 1` has digits to spare there are floats
between `n / (n + 1)` and one. How large the greater number is does not matter.

## Theorems

* `Binary32.exists_div`: The quotient of two floats is rounded to the nearest.
* `Binary32.exists_unpack_toFloat32`: A whole number as a float.
* `Binary32.one_le_nearest_iff`: Rounding a share does not make it one.
* `Binary32.one_le_div_iff`: A share is one exactly if nothing is missing.
-/

namespace Vitae

namespace Binary32

open Float.Model (UnpackedFloat Format totalExponent)
open Float.Model.UnpackedFloat (Sign unpack pack accuracyOfFraction)

section Quotient

/-- What a division leaves over says on which side of a half the rest of the quotient is. -/
theorem marks_quotient (a : ℕ) {b : ℕ} (hb : 0 < b) :
    Marks (.ofMantissaAndAccuracy (a / b) (accuracyOfFraction (a % b) b)) ((a : ℚ) / b) := by
  have hbq : (0 : ℚ) < b := by exact_mod_cast hb
  have hwhole : ⌊(a : ℚ) / b⌋ = ((a / b : ℕ) : ℤ) := Rat.floor_natCast_div_natCast a b
  have hfract : Int.fract ((a : ℚ) / b) = ((a % b : ℕ) : ℚ) / b :=
    Int.fract_div_natCast_eq_div_natCast_mod
  have hhalf : 1 / 2 ≤ Int.fract ((a : ℚ) / b) ↔ b ≤ 2 * (a % b) := by
    rw [hfract, div_le_div_iff₀ two_pos hbq, one_mul, mul_comm _ (2 : ℚ)]
    exact_mod_cast Iff.rfl
  have hrest : Int.fract ((a : ℚ) / b) ≠ 0 ∧ Int.fract ((a : ℚ) / b) ≠ 1 / 2 ↔
      a % b ≠ 0 ∧ 2 * (a % b) ≠ b := by
    rw [hfract, ne_eq, ne_eq, div_eq_zero_iff, or_iff_left hbq.ne', Nat.cast_eq_zero,
      div_eq_div_iff hbq.ne' two_ne_zero, one_mul, mul_comm _ (2 : ℚ)]
    exact_mod_cast Iff.rfl
  rw [accuracyOfFraction]
  by_cases hnone : a % b = 0
  · rw [if_pos hnone]
    exact ⟨hwhole, iff_of_false Bool.false_ne_true (hhalf.not.mpr (by omega)),
      iff_of_false Bool.false_ne_true (hrest.not.mpr (by omega))⟩
  · rw [if_neg hnone]
    rcases lt_trichotomy (2 * (a % b)) b with h | h | h
    · rw [compare_lt_iff_lt.mpr h]
      exact ⟨hwhole, iff_of_false Bool.false_ne_true (hhalf.not.mpr (by omega)),
        iff_of_true rfl (hrest.mpr (by omega))⟩
    · rw [compare_eq_iff_eq.mpr h]
      exact ⟨hwhole, iff_of_true rfl (hhalf.mpr (by omega)),
        iff_of_false Bool.false_ne_true (hrest.not.mpr (by omega))⟩
    · rw [compare_gt_iff_gt.mpr h]
      exact ⟨hwhole, iff_of_true rfl (hhalf.mpr (by omega)),
        iff_of_true rfl (hrest.mpr (by omega))⟩

/-- The quotient of two floats that are numbers is as near to the exact one as there is. -/
theorem exists_div (s t : Sign) {m m' : ℕ} (hm : 0 < m) (hm' : 0 < m') (e e' : ℤ) {x : ℚ}
    (hx : x = m * 2 ^ e / (m' * 2 ^ e')) :
    ∃ k f, UnpackedFloat.div Format.binary32 (.finite s m e hm) (.finite t m' e' hm') =
      ofParts (s / t) k f ∧ Rounds x k f := by
  have hpos : 0 < x := by
    have : (0 : ℚ) < m := by exact_mod_cast hm
    have : (0 : ℚ) < m' := by exact_mod_cast hm'
    rw [hx]
    positivity
  obtain ⟨place, hplace⟩ : ∃ place, min (e - e')
      (Format.binary32.targetExponent (totalExponent m e - totalExponent m' e')) = place := ⟨_, rfl⟩
  have hle : place ≤ e - e' := hplace ▸ min_le_left _ _
  -- The leading digits alone fix the last place of the quotient up to one.
  have hlast : place ≤ lastPlace x := by
    have hlow : (2 : ℚ) ^ ((m.log2 : ℤ) + e - (m'.log2 + e' + 1)) ≤ x := by
      rw [hx, zpow_sub₀ two_ne_zero]
      have htop : (2 : ℚ) ^ ((m.log2 : ℤ) + e) ≤ m * 2 ^ e := by
        rw [zpow_add₀ two_ne_zero, zpow_natCast]
        gcongr
        exact_mod_cast Nat.log2_self_le hm.ne'
      have hbottom : (m' : ℚ) * 2 ^ e' ≤ 2 ^ ((m'.log2 : ℤ) + e' + 1) := by
        rw [add_right_comm, zpow_add₀ two_ne_zero]
        gcongr
        exact_mod_cast Nat.lt_log2_self.le
      gcongr
    have hlog := (Int.zpow_le_iff_le_log (b := 2) (by norm_num) hpos).mp (by exact_mod_cast hlow)
    have htarget : place ≤ max ((m.log2 : ℤ) + 1 + e - (m'.log2 + 1 + e') - 24) (-149) :=
      hplace ▸ min_le_right _ _
    rw [lastPlace_of_pos hpos]
    omega
  have hscaled : ((m <<< (e - e' - place).toNat : ℕ) : ℚ) / m' = x / 2 ^ place := by
    have hcast : ((e - e' - place).toNat : ℤ) = e - e' - place := Int.toNat_of_nonneg (by omega)
    rw [hx, Nat.shiftLeft_eq, Nat.cast_mul, Nat.cast_pow, Nat.cast_ofNat, ← zpow_natCast, hcast,
      zpow_sub₀ two_ne_zero, zpow_sub₀ two_ne_zero]
    field_simp
  have hmarks := marks_quotient (m <<< (e - e' - place).toNat) hm'
  rw [hscaled] at hmarks
  have hround := hmarks.roundWithAccuracy_eq (s / t) hpos hlast
  obtain ⟨k, f, hkf, hrounds⟩ := exists_rounds (s / t) hpos
  refine ⟨k, f, ?_, hrounds⟩
  rw [← hkf, ← hround, ← hplace]
  rfl

end Quotient

section Whole

/-- The product of two floats that are numbers is as near to the exact one as there is, if
it has digits to spare. -/
theorem exists_mul (s t : Sign) {m m' : ℕ} (hm : 0 < m) (hm' : 0 < m') {e e' : ℤ} {x : ℚ}
    (hx : x = m * 2 ^ e * (m' * 2 ^ e')) (hplace : e + e' ≤ lastPlace x) :
    ∃ k f, UnpackedFloat.mul Format.binary32 (.finite s m e hm) (.finite t m' e' hm') =
      ofParts (s * t) k f ∧ Rounds x k f := by
  have hprod : x = (m * m' : ℕ) * 2 ^ (e + e') := by
    rw [hx, Nat.cast_mul, zpow_add₀ two_ne_zero]
    ring
  have hpos : 0 < x := by
    have : (0 : ℚ) < (m * m' : ℕ) := by exact_mod_cast Nat.mul_pos hm hm'
    rw [hprod]
    positivity
  obtain ⟨k, f, hkf, hrounds⟩ := exists_rounds (s * t) hpos
  exact ⟨k, f, hkf ▸ roundWithAccuracy_eq (s * t) (Nat.mul_pos hm hm').ne' hprod hplace, hrounds⟩

/-- A float of ordinary size from its parts, times one. -/
theorem exists_mul_one {m : ℕ} {e : ℤ} (h : Held m e) (hm : 0 < m) {x : ℚ} (hx : x = m * 2 ^ e) :
    ∃ k f, UnpackedFloat.mul Format.binary32 (.finite .positive m e hm)
      (.finite .positive (2 ^ 23) (-23) (by decide)) = ofParts .positive k f ∧ Rounds x k f := by
  refine exists_mul .positive .positive hm (by decide) ?_ ?_
  · rw [hx]
    norm_num
  · rw [hx, lastPlace_mul_zpow hm.ne']
    change e + -23 ≤ max ((m.log2 : ℤ) + 1 + e - 24) (-149)
    have := h.least
    rcases h.full with hfull | hleast
    · have := (Nat.le_log2 hm.ne').mpr hfull
      omega
    · omega

/-- A number without a power of ten behind it is scaled up and down again. -/
theorem ofScientific_zero {n : ℕ} (hn : n ≠ 0) (hshift : 0 < n <<< 24) :
    UnpackedFloat.ofScientific Format.binary32 n 0 =
      UnpackedFloat.mul Format.binary32 (.finite .positive (n <<< 24) (-24) hshift)
        (.finite .positive 1 0 (by decide)) := by
  have hlow : ¬(0 : ℤ) < -(2 ^ Format.binary32.exponentBits + (n.log2 : ℤ)) := by
    change ¬(0 : ℤ) < -(2 ^ 8 + (n.log2 : ℤ))
    omega
  rw [UnpackedFloat.ofScientific, dif_neg hn, if_neg (by decide), if_neg hlow, if_pos le_rfl]
  congr 1

/-- A number of ordinary size is read as a word and multiplied by the power of ten behind
it, which is one. -/
theorem toModel_ofScientific_of_lt {n : ℕ} (h : n < 2 ^ 23) :
    (Float32.ofScientific n false 0).toModel =
      Float32.Model.pack (UnpackedFloat.mul Format.binary32
        (Float32.Model.ofNat n).unpack (.finite .positive (2 ^ 23) (-23) (by decide))) := by
  have hword : n.toUInt64.toNat = n := by
    rw [Nat.toUInt64_eq, UInt64.toNat_ofNat']
    omega
  have hnat : n.toUInt64.toFloat32.toModel = Float32.Model.ofNat n :=
    congrArg Float32.Model.ofNat hword
  have hone : (Float32.ofBits 1065353216).toModel.unpack =
      .finite .positive (2 ^ 23) (-23) (by decide) := rfl
  rw [Float32.ofScientific, dif_pos ⟨h, by decide⟩, ← hone, ← hnat]
  rfl

theorem toModel_ofScientific_of_le {n : ℕ} (h : 2 ^ 23 ≤ n) :
    (Float32.ofScientific n false 0).toModel =
      Float32.Model.pack (UnpackedFloat.ofScientific Format.binary32 n 0) := by
  rw [Float32.ofScientific, dif_neg fun hlt => absurd hlt.1 (not_lt.mpr h)]
  rfl

/-- A word as a float is a positive number in the form that floats are held in. -/
theorem exists_ofNat {n : ℕ} (hn : 0 < n) (h : n < 2 ^ 24) :
    ∃ m e, ∃ hm : 0 < m, (Float32.Model.ofNat n).unpack = .finite .positive m e hm ∧ Held m e ∧
      (m : ℚ) * 2 ^ e = n := by
  have hpos : (0 : ℚ) < n := by exact_mod_cast hn
  obtain ⟨m, e, heq, hrounds⟩ := exists_round .positive hn.ne' 0 (x := n) (by simp)
  have hvalue := hrounds.value
  rw [nearest_natCast h] at hvalue
  have hm : 0 < m := by
    refine Nat.pos_of_ne_zero fun hzero => hpos.ne' ?_
    rw [← hvalue, hzero, Nat.cast_zero, zero_mul]
  refine ⟨m, e, hm, ?_, hrounds.held, hvalue⟩
  have hnormal : UnpackedFloat.ofNat Format.binary32 n = ofParts .positive m e := by
    rw [← heq, UnpackedFloat.ofNat, UnpackedFloat.ofInt, UnpackedFloat.normalize,
      show compare (n : ℤ) 0 = .gt from Int.compare_eq_gt.mpr (by exact_mod_cast hn)]
    rfl
  have hsmall : (n : ℚ) < 2 ^ 127 := by exact_mod_cast h.trans (by decide)
  rw [← ofParts_of_pos .positive hm, ← unpack_pack .positive hrounds.held (hrounds.small hsmall),
    ← hnormal]
  rfl

/-- A whole number as a float, before it is looked at how large it is. -/
theorem exists_toFloat32 {n : ℕ} (hn : 0 < n) :
    ∃ m e, n.toFloat32.toModel = Float32.Model.pack (ofParts .positive m e) ∧ Rounds n m e := by
  have hpos : (0 : ℚ) < n := by exact_mod_cast hn
  change ∃ m e, (Float32.ofScientific n false 0).toModel = _ ∧ Rounds n m e
  rcases lt_or_ge n (2 ^ 23) with hsmall | hlarge
  · obtain ⟨m, e, hm, hunpack, hheld, hvalue⟩ := exists_ofNat hn (hsmall.trans (by decide))
    obtain ⟨k, f, hkf, hrounds⟩ := exists_mul_one hheld hm hvalue.symm
    rw [toModel_ofScientific_of_lt hsmall, hunpack]
    exact ⟨k, f, congrArg _ hkf, hrounds⟩
  · have hshift : 0 < n <<< 24 := by
      rw [Nat.shiftLeft_eq]
      positivity
    have hexact : (n : ℚ) = (n <<< 24 : ℕ) * 2 ^ (-24 : ℤ) * ((1 : ℕ) * 2 ^ (0 : ℤ)) := by
      rw [Nat.shiftLeft_eq]
      push_cast
      norm_num
      ring
    have hplace : (-24 : ℤ) + 0 ≤ lastPlace n := by
      rw [lastPlace_of_pos hpos, Int.log_of_one_le_right 2 (by exact_mod_cast hn)]
      omega
    obtain ⟨k, f, hkf, hrounds⟩ :=
      exists_mul .positive .positive hshift (by decide : 0 < 1) hexact hplace
    rw [toModel_ofScientific_of_le hlarge, ofScientific_zero hn.ne' hshift]
    exact ⟨k, f, congrArg _ hkf, hrounds⟩

/-- What is too large is encoded as infinity. -/
theorem unpack_pack_of_large (s : Sign) {m : ℕ} {e : ℤ} (hm : 0 < m) (he : 104 < e) :
    unpack Format.binary32 (pack Format.binary32 (ofParts s m e)) = .infinity s := by
  have hlarge : 2 ^ 8 ≤ (e + 127 + 23).toNat + 1 := by omega
  rw [ofParts_of_pos s hm]
  change unpack Format.binary32 (if 2 ^ 8 ≤ (e + 127 + 23).toNat + 1 then
    UnpackedFloat.packedInfinity Format.binary32 s else _) = _
  rw [if_pos hlarge]
  cases s <;> rfl

/-- A whole number as a float is the nearest float, or infinity. -/
theorem exists_unpack_toFloat32 {n : ℕ} (hn : 0 < n) :
    ∃ m e, ∃ hm : 0 < m, Rounds n m e ∧
      n.toFloat32.toModel.unpack =
        if e ≤ 104 then .finite .positive m e hm else .infinity .positive := by
  obtain ⟨m, e, hmodel, hrounds⟩ := exists_toFloat32 hn
  have hm : 0 < m := by
    -- A whole number is at least one, and one is not rounded away.
    have hone : nearest ((1 : ℕ) : ℚ) ≤ nearest n := nearest_mono (by exact_mod_cast hn)
    rw [nearest_natCast (by decide), ← hrounds.value] at hone
    refine Nat.pos_of_ne_zero fun hzero => ?_
    rw [hzero, Nat.cast_zero, zero_mul] at hone
    norm_num at hone
  have hunpack : n.toFloat32.toModel.unpack =
      unpack Format.binary32 (pack Format.binary32 (ofParts .positive m e)) := by
    rw [hmodel]
    rfl
  refine ⟨m, e, hm, hrounds, ?_⟩
  split
  · rename_i hordinary
    rw [hunpack, unpack_pack _ hrounds.held hordinary, ofParts_of_pos _ hm]
  · rename_i hlarge
    exact hunpack.trans (unpack_pack_of_large _ hm (not_le.mp hlarge))

end Whole

section Share

/-- A share is rounded to one exactly if nothing is missing. Otherwise it is at most
`c / (c + 1)`, and there is a float between that and one. -/
theorem one_le_nearest_iff {c u : ℕ} (hpos : 0 < c) (hle : c ≤ u) (hsmall : c < 2 ^ 23) :
    1 ≤ nearest (c / nearest u) ↔ c = u := by
  have hc : (0 : ℚ) < c := by exact_mod_cast hpos
  constructor
  · intro hone
    by_contra hne
    have hnext : ((c + 1 : ℕ) : ℚ) ≤ nearest u := by
      rw [← nearest_natCast (by omega : c + 1 < 2 ^ 24)]
      exact nearest_mono (by exact_mod_cast (by omega : c + 1 ≤ u))
    have hbelow : (c : ℚ) / nearest u ≤ (2 ^ 24 - 2 : ℕ) * 2 ^ (-24 : ℤ) := by
      have hlarge : (c : ℚ) + 1 ≤ 2 ^ 23 := by exact_mod_cast hsmall
      rw [Nat.cast_add_one] at hnext
      calc (c : ℚ) / nearest u ≤ c / (c + 1) := by gcongr
        _ = 1 - 1 / (c + 1) := by field_simp; ring
        _ ≤ 1 - 1 / 2 ^ 23 := by gcongr
        _ = (2 ^ 24 - 2 : ℕ) * 2 ^ (-24 : ℤ) := by norm_num
    have hrounded := nearest_mono hbelow
    rw [nearest_mul_zpow (by decide) (by decide)] at hrounded
    norm_num at hrounded
    linarith
  · rintro rfl
    have hexact : nearest ((c : ℕ) : ℚ) = c := nearest_natCast (by omega)
    have hone : nearest 1 = 1 := by exact_mod_cast nearest_natCast (by decide : 1 < 2 ^ 24)
    rw [hexact, div_self hc.ne', hone]

/-- The decoded share of one whole number in another. -/
theorem exists_share {c u : ℕ} (hpos : 0 < u) (hle : c ≤ u) (hsmall : c < 2 ^ 23) :
    ∃ z, Encodes (UnpackedFloat.div Format.binary32 c.toFloat32.toModel.unpack
      u.toFloat32.toModel.unpack) z ∧ (1 ≤ z ↔ c = u) := by
  obtain ⟨m', e', hm', hrounds', hunpack'⟩ := exists_unpack_toFloat32 hpos
  rw [hunpack']
  rcases Nat.eq_zero_or_pos c with rfl | hc
  · have hzero : (0 : ℕ).toFloat32.toModel.unpack = .zero .positive := rfl
    refine ⟨0, ?_, iff_of_false (by norm_num) hpos.ne⟩
    rw [hzero]
    split <;> exact encodes_zero _
  · obtain ⟨m, e, hm, hrounds, hunpack⟩ := exists_unpack_toFloat32 hc
    have hexact : (c : ℚ) < 2 ^ 127 := by exact_mod_cast hsmall.trans (by decide)
    rw [hunpack, if_pos (hrounds.small hexact)]
    have hvalue := hrounds.value
    rw [nearest_natCast (by omega)] at hvalue
    split
    · obtain ⟨k, f, hdiv, hquotient⟩ := exists_div .positive .positive hm hm' e e' rfl
      rw [hvalue, hrounds'.value] at hquotient
      have hall : (c : ℚ) ≤ nearest u := by
        rw [← nearest_natCast (by omega : c < 2 ^ 24)]
        exact nearest_mono (by exact_mod_cast hle)
      have hshare : (c : ℚ) / nearest u < 2 ^ 127 :=
        (div_le_one_of_le₀ hall ((Nat.cast_nonneg c).trans hall)).trans_lt (by norm_num)
      refine ⟨nearest (c / nearest u), ?_, one_le_nearest_iff hc hle hsmall⟩
      exact ⟨.positive, k, f, hdiv, hquotient.held, hquotient.small hshare, hquotient.value⟩
    · -- A number that becomes infinity is not a small one.
      rename_i hlarge
      refine ⟨0, encodes_zero _, iff_of_false (by norm_num) ?_⟩
      rintro rfl
      exact hlarge (hrounds'.small hexact)

/-- The share of one whole number in another is one exactly if nothing is missing. -/
theorem one_le_div_iff {c u : ℕ} (hpos : 0 < u) (hle : c ≤ u) (hsmall : c < 2 ^ 23) :
    1 ≤ c.toFloat32 / u.toFloat32 ↔ c = u := by
  obtain ⟨z, hencodes, hz⟩ := exists_share hpos hle hsmall
  obtain ⟨-, hfinite, hvalue⟩ := hencodes.spec (x := c.toFloat32 / u.toFloat32) rfl
  have hone : value 1 = 1 := by decide +kernel
  rw [le_iff (by decide +kernel) hfinite, hone, hvalue, hz]

end Share

end Binary32

end Vitae
