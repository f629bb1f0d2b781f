import Mathlib.Data.Int.Log
import Vitae.Proofs.Number.Binary32
import Vitae.Proofs.Number.HalfEven

/-!
# Rounding to Floats

A float operation is the exact one followed by rounding. The exact result is a
fraction, and `nearest` rounds it without a word about bits: it finds the last binary
place that there is room for, and takes the whole number of places that is nearest.
The bits agree. What the digits that are dropped leave behind, a half and a rest, are
marks of the exact number, and dropping one more digit keeps them right.

Infinity is out of the picture. The theorems about operations ask for a result that
is small enough, and give a float that is a number.

## Main definitions

* `Binary32.lastPlace`, `Binary32.nearest`: Rounding, on exact numbers.
* `Binary32.Marks`: What the bits behind a mantissa say about the exact number.
* `Binary32.Encodes`: A decoded float that survives encoding.

## Theorems

* `Binary32.nearest_mono`: Rounding keeps the order.
* `Binary32.nearest_of_held`: What a float holds is its own nearest.
* `Binary32.Marks.rounded`: The marks decide the rounding as the exact number does.
* `Binary32.Marks.shifted`: Dropping digits keeps the marks right.
* `Binary32.exists_rounds`: What has the right marks is rounded to the nearest.
* `Binary32.exists_round`: Decoded floats are rounded to the nearest.
* `Binary32.sub_spec`: The difference of two floats is the nearest to the exact one.
-/

namespace Vitae

namespace Binary32

open Float.Model (UnpackedFloat Format totalExponent)
open Float.Model.UnpackedFloat (Sign ExtendedMantissa Accuracy unpack pack shiftToExponent
  shiftToTargetExponent roundWithAccuracy decreaseExponent sub)

/-- The exponent of the last digit that there is room for. -/
def lastPlace (x : ℚ) : ℤ :=
  max (Int.log 2 |x| - 23) (-149)

/-- The nearest number with digits that there is room for, of two equally near ones
the one with an even last digit. -/
def nearest (x : ℚ) : ℚ :=
  halfEven (x / 2 ^ lastPlace x) * 2 ^ lastPlace x

theorem lastPlace_of_pos {x : ℚ} (hx : 0 < x) : lastPlace x = max (Int.log 2 x - 23) (-149) := by
  rw [lastPlace, abs_of_pos hx]

@[simp]
theorem nearest_zero : nearest 0 = 0 := by
  rw [nearest, zero_div, ← Int.cast_zero, halfEven_intCast, Int.cast_zero, zero_mul]

theorem nearest_neg (x : ℚ) : nearest (-x) = -nearest x := by
  have hplace : lastPlace (-x) = lastPlace x := by rw [lastPlace, lastPlace, abs_neg]
  rw [nearest, nearest, hplace, neg_div, halfEven_neg]
  push_cast
  ring

/-- A multiple of the last place is on the same side of a number and of its nearest. -/
theorem nearest_le_of_le {x : ℚ} {k : ℤ} (h : x ≤ k * 2 ^ lastPlace x) :
    nearest x ≤ k * 2 ^ lastPlace x := by
  have hpos : (0 : ℚ) < 2 ^ lastPlace x := by positivity
  have hk := halfEven_mono ((div_le_iff₀ hpos).mpr h)
  rw [halfEven_intCast] at hk
  exact mul_le_mul_of_nonneg_right (by exact_mod_cast hk) hpos.le

theorem le_nearest_of_le {x : ℚ} {k : ℤ} (h : k * 2 ^ lastPlace x ≤ x) :
    k * 2 ^ lastPlace x ≤ nearest x := by
  have hpos : (0 : ℚ) < 2 ^ lastPlace x := by positivity
  have hk := halfEven_mono ((le_div_iff₀ hpos).mpr h)
  rw [halfEven_intCast] at hk
  exact mul_le_mul_of_nonneg_right (by exact_mod_cast hk) hpos.le

theorem nearest_nonneg {x : ℚ} (h : 0 ≤ x) : 0 ≤ nearest x := by
  have := le_nearest_of_le (x := x) (k := 0) (by rw [Int.cast_zero, zero_mul]; exact h)
  rwa [Int.cast_zero, zero_mul] at this

theorem nearest_mono_of_pos {x y : ℚ} (hx : 0 < x) (h : x ≤ y) : nearest x ≤ nearest y := by
  have hy : 0 < y := lt_of_lt_of_le hx h
  have hlog : Int.log 2 x ≤ Int.log 2 y := Int.log_mono_right hx h
  have hplace : lastPlace x ≤ lastPlace y := by
    rw [lastPlace_of_pos hx, lastPlace_of_pos hy]
    omega
  rcases hplace.eq_or_lt with heq | hlt
  · have hpos : (0 : ℚ) < 2 ^ lastPlace y := by positivity
    rw [nearest, nearest, heq]
    refine mul_le_mul_of_nonneg_right ?_ hpos.le
    exact_mod_cast halfEven_mono (div_le_div_of_nonneg_right h hpos.le)
  · -- Between the two there is a power of two, which both have room for.
    rw [lastPlace_of_pos hx, lastPlace_of_pos hy] at hlt
    have hpower : ∀ {z : ℚ}, lastPlace z ≤ Int.log 2 y → ∃ k : ℤ,
        (2 : ℚ) ^ Int.log 2 y = k * 2 ^ lastPlace z := by
      intro z hz
      refine ⟨2 ^ (Int.log 2 y - lastPlace z).toNat, ?_⟩
      push_cast
      rw [← zpow_natCast, Int.toNat_of_nonneg (by omega), ← zpow_add₀ two_ne_zero]
      congr 1
      omega
    obtain ⟨i, hi⟩ := hpower (z := x) (by rw [lastPlace_of_pos hx]; omega)
    obtain ⟨j, hj⟩ := hpower (z := y) (by rw [lastPlace_of_pos hy]; omega)
    have hxlt : x < 2 ^ Int.log 2 y := by
      have := (Int.lt_zpow_iff_log_lt (b := 2) (by norm_num) hx (x := Int.log 2 y)).mpr (by omega)
      exact_mod_cast this
    have hley : (2 : ℚ) ^ Int.log 2 y ≤ y := by
      have := Int.zpow_log_le_self (b := 2) (by norm_num) hy
      exact_mod_cast this
    calc nearest x ≤ 2 ^ Int.log 2 y := by
          rw [hi]
          exact nearest_le_of_le (hi ▸ hxlt.le)
      _ ≤ nearest y := by
          rw [hj]
          exact le_nearest_of_le (hj ▸ hley)

/-- Rounding keeps the order. -/
theorem nearest_mono {x y : ℚ} (h : x ≤ y) : nearest x ≤ nearest y := by
  rcases lt_or_ge 0 x with hx | hx
  · exact nearest_mono_of_pos hx h
  · have hneg : 0 ≤ -nearest x := by
      rw [← nearest_neg]
      exact nearest_nonneg (by linarith)
    rcases lt_or_ge y 0 with hy | hy
    · have := nearest_mono_of_pos (neg_pos.mpr hy) (neg_le_neg h)
      rw [nearest_neg, nearest_neg] at this
      linarith
    · have := nearest_nonneg hy
      linarith

/-- The leading digit of a significand, wherever the exponent puts it. -/
theorem log_mul_zpow {m : ℕ} (hm : m ≠ 0) (e : ℤ) : Int.log 2 ((m : ℚ) * 2 ^ e) = m.log2 + e := by
  have hpos : (0 : ℚ) < m * 2 ^ e := by
    have : (0 : ℚ) < m := by exact_mod_cast Nat.pos_of_ne_zero hm
    positivity
  have hle : (2 : ℚ) ^ ((m.log2 : ℤ) + e) ≤ m * 2 ^ e := by
    rw [zpow_add₀ two_ne_zero, zpow_natCast]
    gcongr
    exact_mod_cast Nat.log2_self_le hm
  have hlt : (m : ℚ) * 2 ^ e < 2 ^ ((m.log2 : ℤ) + e + 1) := by
    rw [add_right_comm, zpow_add₀ two_ne_zero]
    gcongr
    exact_mod_cast Nat.lt_log2_self
  have hge := (Int.zpow_le_iff_le_log (b := 2) (by norm_num) hpos).mp (by exact_mod_cast hle)
  have hgt := (Int.lt_zpow_iff_log_lt (b := 2) (by norm_num) hpos).mp (by exact_mod_cast hlt)
  omega

theorem lastPlace_mul_zpow {m : ℕ} (hm : m ≠ 0) (e : ℤ) :
    lastPlace (m * 2 ^ e) = Format.binary32.targetExponent (totalExponent m e) := by
  have hnonneg : (0 : ℚ) ≤ m * 2 ^ e := by positivity
  rw [lastPlace, abs_of_nonneg hnonneg, log_mul_zpow hm]
  change _ = max ((m.log2 : ℤ) + 1 + e - 24) (-149)
  omega

/-- A number with digits that there is room for is its own nearest. -/
theorem nearest_mul_zpow {m : ℕ} {e : ℤ} (hlt : m < 2 ^ 24) (hleast : -149 ≤ e) :
    nearest (m * 2 ^ e) = m * 2 ^ e := by
  by_cases hm : m = 0
  · subst hm
    simp
  · have hlog : m.log2 < 24 := (Nat.log2_lt hm).mpr hlt
    have hplace : lastPlace (m * 2 ^ e) ≤ e := by
      rw [lastPlace, abs_of_nonneg (by positivity), log_mul_zpow hm]
      omega
    -- The digits are a whole number of last places.
    obtain ⟨k, hk⟩ := Int.eq_ofNat_of_zero_le (sub_nonneg.mpr hplace)
    have hwhole : (m : ℚ) * 2 ^ e / 2 ^ lastPlace (m * 2 ^ e) = ((m * 2 ^ k : ℕ) : ℤ) := by
      rw [div_eq_iff (by positivity)]
      push_cast
      rw [mul_assoc, ← zpow_natCast, ← zpow_add₀ two_ne_zero]
      congr 2
      omega
    rw [nearest, hwhole, halfEven_intCast, ← hwhole, div_mul_cancel₀ _ (by positivity)]

/-- What a float holds is its own nearest. -/
theorem nearest_of_held {m : ℕ} {e : ℤ} (h : Held m e) : nearest (m * 2 ^ e) = m * 2 ^ e :=
  nearest_mul_zpow h.lt h.least

/-- A whole number with few digits is its own nearest. -/
theorem nearest_natCast {n : ℕ} (h : n < 2 ^ 24) : nearest n = n := by
  have hn : (n : ℚ) * 2 ^ (0 : ℤ) = n := by rw [zpow_zero, mul_one]
  rw [← hn]
  exact nearest_mul_zpow h (by decide)

theorem nearest_valueOf {u : UnpackedFloat} (h : Canonical u) : nearest (valueOf u) = valueOf u := by
  cases u with
  | infinity s => exact h.elim
  | notANumber => exact h.elim
  | zero s => exact nearest_zero
  | finite s m e hm =>
    have hheld := nearest_of_held h
    cases s with
    | positive => rw [valueOf_positive, hheld]
    | negative => rw [valueOf_negative, nearest_neg, hheld]

section Digits

/-- The bits behind a mantissa say on which side of a half the rest of a number is. -/
structure Marks (em : ExtendedMantissa) (x : ℚ) : Prop where
  whole : ⌊x⌋ = em.mantissa
  half : em.roundBit = true ↔ 1 / 2 ≤ Int.fract x
  rest : em.stickyBit = true ↔ Int.fract x ≠ 0 ∧ Int.fract x ≠ 1 / 2

theorem marks_exact (m : ℕ) : Marks (.ofMantissaAndAccuracy m .exact) m where
  whole := Int.floor_natCast m
  half := by
    rw [Int.fract_natCast]
    norm_num [ExtendedMantissa.ofMantissaAndAccuracy]
  rest := by
    rw [Int.fract_natCast]
    simp [ExtendedMantissa.ofMantissaAndAccuracy]

/-- The bits behind a mantissa decide how it is rounded. -/
theorem Marks.rounded {em : ExtendedMantissa} {x : ℚ} (h : Marks em x) :
    (em.roundedMantissa : ℤ) = halfEven x := by
  rcases em with ⟨m, half, rest⟩
  obtain ⟨hwhole, hhalf, hrest⟩ := h
  cases half with
  | false =>
    have hlt : Int.fract x < 1 / 2 := not_le.mp fun hge => Bool.false_ne_true (hhalf.mpr hge)
    rw [halfEven_of_lt hlt, hwhole]
    cases rest <;> rfl
  | true =>
    have hge := hhalf.mp rfl
    cases rest with
    | false =>
      have heq : Int.fract x = 1 / 2 := by
        by_contra hne
        exact Bool.false_ne_true (hrest.mpr ⟨by linarith, hne⟩)
      rw [halfEven_of_half heq, hwhole]
      exact Int.natCast_add m (m % 2)
    | true =>
      have hgt : 1 / 2 < Int.fract x := lt_of_le_of_ne hge (hrest.mp rfl).2.symm
      rw [halfEven_of_gt hgt, hwhole]
      rfl

/-- The digit that is dropped becomes the next bit, and the bits behind it the rest. -/
theorem Marks.shiftRightOne {em : ExtendedMantissa} {x : ℚ} (h : Marks em x) :
    Marks em.shiftRightOne (x / 2) := by
  rcases em with ⟨m, half, rest⟩
  obtain ⟨hwhole, hhalf, hrest⟩ := h
  have hnonneg := Int.fract_nonneg x
  have hlt := Int.fract_lt_one x
  have hx : x = (m : ℚ) + Int.fract x := by
    rw [← Int.floor_add_fract x, hwhole]
    simp
  have hm : (m : ℚ) = 2 * (m / 2 : ℕ) + (m % 2 : ℕ) := by exact_mod_cast (Nat.div_add_mod m 2).symm
  have hbit : m % 2 = 0 ∨ m % 2 = 1 := Nat.mod_two_eq_zero_or_one m
  have hfloor : ⌊x / 2⌋ = (m / 2 : ℕ) := by
    rw [Int.floor_eq_iff, Int.cast_natCast]
    rcases hbit with hbit | hbit <;> rw [hbit] at hm <;> norm_num only [Nat.cast_zero, Nat.cast_one] at hm <;>
      constructor <;> linarith
  have hfract : Int.fract (x / 2) = ((m % 2 : ℕ) + Int.fract x) / 2 := by
    rw [Int.fract, hfloor, Int.cast_natCast]
    linarith
  refine ⟨hfloor, ?_, ?_⟩
  · rw [hfract]
    rcases hbit with hbit | hbit <;> simp [ExtendedMantissa.shiftRightOne, hbit] <;> linarith
  · -- There is a rest unless the old number was whole.
    have hsome : (half || rest) = true ↔ Int.fract x ≠ 0 := by
      rw [Bool.or_eq_true, hhalf, hrest]
      constructor
      · rintro (hge | hne)
        · linarith
        · exact hne.1
      · intro hne
        by_cases hge : 1 / 2 ≤ Int.fract x
        · exact .inl hge
        · exact .inr ⟨hne, fun heq => hge heq.ge⟩
    change (half || rest) = true ↔ _
    rw [hsome, hfract]
    rcases hbit with hbit | hbit <;> rw [hbit] <;> constructor
    · intro hne
      constructor <;> intro heq
      · exact hne (by push_cast at heq; linarith)
      · push_cast at heq
        linarith
    · rintro ⟨hne, _⟩ heq
      exact hne (by rw [heq]; norm_num)
    · intro hne
      constructor <;> intro heq
      · push_cast at heq
        linarith
      · exact hne (by push_cast at heq; linarith)
    · rintro ⟨_, hne⟩ heq
      exact hne (by rw [heq]; norm_num)

/-- Dropping digits keeps track of what they were. -/
theorem Marks.shiftRight {em : ExtendedMantissa} {x : ℚ} (h : Marks em x) (n : ℕ) :
    Marks (em >>> n) (x / 2 ^ n) := by
  change Marks (n.repeat ExtendedMantissa.shiftRightOne em) _
  induction n with
  | zero => simpa [Nat.repeat] using h
  | succ n ih =>
    rw [Nat.repeat, pow_succ, ← div_div]
    exact ih.shiftRightOne

/-- Digits are dropped down to an exponent. -/
theorem Marks.shifted {m : ℕ} {accuracy : Accuracy} {x : ℚ} {e t : ℤ}
    (h : Marks (.ofMantissaAndAccuracy m accuracy) (x / 2 ^ e)) (ht : e ≤ t) :
    Marks (shiftToExponent m e accuracy t).1 (x / 2 ^ t) ∧
      (shiftToExponent m e accuracy t).2 = t := by
  have hmarks := h.shiftRight (t - e).toNat
  have hcast : ((t - e).toNat : ℤ) = t - e := Int.toNat_of_nonneg (by omega)
  have hdrop : x / 2 ^ e / 2 ^ (t - e).toNat = x / 2 ^ t := by
    rw [← zpow_natCast, hcast, div_div, ← zpow_add₀ two_ne_zero, add_sub_cancel]
  rw [hdrop] at hmarks
  refine ⟨hmarks, ?_⟩
  change e + ((t - e).toNat : ℤ) = t
  omega

/-- Digits that there is room for are left alone. -/
theorem shiftToTargetExponent_of_lt {m : ℕ} {e : ℤ} (hm : m < 2 ^ 24) (he : -149 ≤ e) :
    shiftToTargetExponent Format.binary32 m e .exact =
      (.ofMantissaAndAccuracy m .exact, e) := by
  have hlog : m.log2 < 24 := by
    by_cases hzero : m = 0
    · subst hzero
      decide
    · exact (Nat.log2_lt hzero).mpr hm
  have hnone : (max ((m.log2 : ℤ) + 1 + e - 24) (-149) - e).toNat = 0 := by omega
  change (ExtendedMantissa.ofMantissaAndAccuracy m .exact >>>
    (max ((m.log2 : ℤ) + 1 + e - 24) (-149) - e).toNat,
    e + ((max ((m.log2 : ℤ) + 1 + e - 24) (-149) - e).toNat : ℤ)) = _
  rw [hnone]
  exact Prod.ext rfl (Int.add_zero e)

/-- One digit too many comes from rounding up, and the last one is a zero then. -/
theorem shiftToTargetExponent_carry {e : ℤ} (he : -149 ≤ e) :
    shiftToTargetExponent Format.binary32 (2 ^ 24) e .exact =
      (.ofMantissaAndAccuracy (2 ^ 23) .exact, e + 1) := by
  have hone : (max (24 + 1 + e - 24) (-149) - e).toNat = 1 := by omega
  change (ExtendedMantissa.ofMantissaAndAccuracy (2 ^ 24) .exact >>>
    (max (((2 ^ 24 : ℕ).log2 : ℤ) + 1 + e - 24) (-149) - e).toNat,
    e + ((max (((2 ^ 24 : ℕ).log2 : ℤ) + 1 + e - 24) (-149) - e).toNat : ℤ)) = _
  rw [Nat.log2_two_pow, Nat.cast_ofNat, hone]
  rfl

end Digits

/-- The digits that a number is rounded to. -/
def digits (x : ℚ) : ℕ :=
  (halfEven (x / 2 ^ lastPlace x)).toNat

theorem digits_le {x : ℚ} (hx : 0 < x) : digits x ≤ 2 ^ 24 := by
  have hlt : x < 2 ^ (Int.log 2 x + 1) := by
    exact_mod_cast Int.lt_zpow_succ_log_self (b := 2) (by norm_num) x
  have hle : x / 2 ^ lastPlace x ≤ ((2 ^ 24 : ℤ) : ℚ) := by
    rw [div_le_iff₀ (by positivity), Int.cast_pow, Int.cast_ofNat, ← zpow_natCast,
      ← zpow_add₀ two_ne_zero]
    refine hlt.le.trans (zpow_le_zpow_right₀ (by norm_num) ?_)
    rw [lastPlace_of_pos hx]
    push_cast
    omega
  have hdigits := halfEven_mono hle
  rw [halfEven_intCast] at hdigits
  rw [digits]
  omega

/-- Unless the last place is the least there is, all places are taken. -/
theorem le_digits {x : ℚ} (hx : 0 < x) : 2 ^ 23 ≤ digits x ∨ lastPlace x = -149 := by
  by_cases hleast : lastPlace x = -149
  · exact .inr hleast
  · have hlog : Int.log 2 x = 23 + lastPlace x := by
      rw [lastPlace_of_pos hx] at hleast ⊢
      omega
    have hge : (2 : ℚ) ^ Int.log 2 x ≤ x := by
      exact_mod_cast Int.zpow_log_le_self (b := 2) (by norm_num) hx
    have hle : ((2 ^ 23 : ℤ) : ℚ) ≤ x / 2 ^ lastPlace x := by
      rw [le_div_iff₀ (by positivity), Int.cast_pow, Int.cast_ofNat, ← zpow_natCast,
        ← zpow_add₀ two_ne_zero, Nat.cast_ofNat, ← hlog]
      exact hge
    have hdigits := halfEven_mono hle
    rw [halfEven_intCast] at hdigits
    rw [digits]
    exact .inl (by omega)

theorem cast_digits {x : ℚ} (hx : 0 ≤ x) : (digits x : ℤ) = halfEven (x / 2 ^ lastPlace x) := by
  have hnonneg := halfEven_mono (x := ((0 : ℤ) : ℚ)) (y := x / 2 ^ lastPlace x) (by positivity)
  rw [halfEven_intCast] at hnonneg
  rw [digits, Int.toNat_of_nonneg hnonneg]

/-- A float that a positive number is rounded to. -/
structure Rounds (x : ℚ) (m : ℕ) (e : ℤ) : Prop where
  held : Held m e
  value : (m : ℚ) * 2 ^ e = nearest x
  small : x < 2 ^ 127 → e ≤ 104

/-- Rounding shifts twice: what the first shift leaves is rounded, and a digit that the
rounding carries over is shifted out again. -/
theorem roundWithAccuracy_eq_ofParts (s : Sign) (m : ℕ) (e : ℤ) (accuracy : Accuracy) :
    roundWithAccuracy Format.binary32 s m e accuracy =
      ofParts s
        (shiftToTargetExponent Format.binary32
          (shiftToTargetExponent Format.binary32 m e accuracy).1.roundedMantissa
          (shiftToTargetExponent Format.binary32 m e accuracy).2 .exact).1.mantissa
        (shiftToTargetExponent Format.binary32
          (shiftToTargetExponent Format.binary32 m e accuracy).1.roundedMantissa
          (shiftToTargetExponent Format.binary32 m e accuracy).2 .exact).2 :=
  rfl

/-- The whole part of a number, counted in places that are small enough, tells where its
last place is. -/
theorem targetExponent_of_floor {x : ℚ} (hx : 0 < x) {m : ℕ} {e : ℤ} (hm : ⌊x / 2 ^ e⌋ = m)
    (he : e ≤ lastPlace x) : Format.binary32.targetExponent (totalExponent m e) = lastPlace x := by
  have hpos : (0 : ℚ) < 2 ^ e := by positivity
  obtain ⟨hle, hlt⟩ := Int.floor_eq_iff.mp hm
  rw [le_div_iff₀ hpos] at hle
  rw [div_lt_iff₀ hpos] at hlt
  push_cast at hle hlt
  by_cases hzero : m = 0
  · -- Less than one of these places is there, so the least exponent is the last place.
    subst hzero
    have hlog := (Int.lt_zpow_iff_log_lt (b := 2) (x := e) (by norm_num) hx).mp
      (by push_cast at hlt ⊢; linarith)
    rw [lastPlace_of_pos hx] at he ⊢
    change max (((0 : ℕ).log2 : ℤ) + 1 + e - 24) (-149) = _
    rw [Nat.log2_zero]
    omega
  · have hlog : Int.log 2 x = m.log2 + e := by
      refine le_antisymm ?_ ?_
      · have hup : x < 2 ^ ((m.log2 : ℤ) + e + 1) := by
          refine lt_of_lt_of_le hlt ?_
          rw [add_right_comm, zpow_add₀ two_ne_zero]
          gcongr
          exact_mod_cast Nat.lt_log2_self
        have := (Int.lt_zpow_iff_log_lt (b := 2) (by norm_num) hx).mp (by exact_mod_cast hup)
        omega
      · rw [← log_mul_zpow hzero]
        exact Int.log_mono_right (by positivity) hle
    rw [lastPlace_of_pos hx, hlog]
    change max ((m.log2 : ℤ) + 1 + e - 24) (-149) = _
    omega

/-- The digits and what is left of a number decide how it is rounded. -/
theorem Marks.roundWithAccuracy_eq (s : Sign) {m : ℕ} {e : ℤ} {accuracy : Accuracy} {x : ℚ}
    (h : Marks (.ofMantissaAndAccuracy m accuracy) (x / 2 ^ e)) (hx : 0 < x)
    (he : e ≤ lastPlace x) :
    roundWithAccuracy Format.binary32 s m e accuracy =
      if digits x < 2 ^ 24 then ofParts s (digits x) (lastPlace x)
      else ofParts s (2 ^ 23) (lastPlace x + 1) := by
  have hleast : -149 ≤ lastPlace x := le_max_right _ _
  have hwhole : ⌊x / 2 ^ e⌋ = m := by
    rw [h.whole]
    rcases accuracy with _ | (_ | _ | _) <;> rfl
  have htarget := targetExponent_of_floor hx hwhole he
  -- The first shift drops the digits behind the last place, and what is left is rounded.
  obtain ⟨hmarks, hplace⟩ := h.shifted he
  have hrounded : (shiftToExponent m e accuracy (lastPlace x)).1.roundedMantissa = digits x := by
    have := hmarks.rounded
    rw [← cast_digits hx.le] at this
    exact_mod_cast this
  have hfirst : shiftToTargetExponent Format.binary32 m e accuracy =
      ((shiftToExponent m e accuracy (lastPlace x)).1, lastPlace x) := by
    rw [shiftToTargetExponent, htarget]
    exact Prod.ext rfl hplace
  rw [roundWithAccuracy_eq_ofParts, hfirst, hrounded]
  by_cases hlt : digits x < 2 ^ 24
  · rw [shiftToTargetExponent_of_lt hlt hleast, if_pos hlt]
    rfl
  · have hcarry : digits x = 2 ^ 24 := by
      have := digits_le hx
      omega
    rw [if_neg hlt, hcarry, shiftToTargetExponent_carry hleast]
    rfl

theorem roundWithAccuracy_eq (s : Sign) {m : ℕ} (hm : m ≠ 0) {e : ℤ} {x : ℚ}
    (hx : x = m * 2 ^ e) (he : e ≤ lastPlace x) :
    roundWithAccuracy Format.binary32 s m e .exact =
      if digits x < 2 ^ 24 then ofParts s (digits x) (lastPlace x)
      else ofParts s (2 ^ 23) (lastPlace x + 1) := by
  have hpos : 0 < x := by
    have : (0 : ℚ) < m := by exact_mod_cast Nat.pos_of_ne_zero hm
    rw [hx]
    positivity
  have hmarks := marks_exact m
  rw [← mul_div_cancel_right₀ (m : ℚ) (by positivity : (2 : ℚ) ^ e ≠ 0), ← hx] at hmarks
  exact hmarks.roundWithAccuracy_eq s hpos he

theorem round_eq (s : Sign) {m : ℕ} (hm : m ≠ 0) (e : ℤ) {x : ℚ} (hx : x = m * 2 ^ e) :
    UnpackedFloat.round Format.binary32 s m e =
      if digits x < 2 ^ 24 then ofParts s (digits x) (lastPlace x)
      else ofParts s (2 ^ 23) (lastPlace x + 1) := by
  have htarget := lastPlace_mul_zpow hm e
  rw [← hx] at htarget
  -- Zeros are appended until the exponent is no greater than the last place.
  have hshift : m <<< (e - lastPlace x).toNat ≠ 0 := by
    rw [Nat.shiftLeft_eq]
    positivity
  have hsame : x = (m <<< (e - lastPlace x).toNat : ℕ) *
      2 ^ (e - ((e - lastPlace x).toNat : ℤ)) := by
    rw [hx, Nat.shiftLeft_eq, Nat.cast_mul, Nat.cast_pow, Nat.cast_ofNat, mul_assoc,
      ← zpow_natCast, ← zpow_add₀ two_ne_zero]
    congr 2
    omega
  have hround := roundWithAccuracy_eq s hshift hsame (by omega)
  rw [UnpackedFloat.round, decreaseExponent, ← htarget]
  exact hround

/-- The digits that a positive number is rounded to, with their place, make the float that
is nearest to it. -/
theorem exists_rounds (s : Sign) {x : ℚ} (hpos : 0 < x) :
    ∃ m' e', (if digits x < 2 ^ 24 then ofParts s (digits x) (lastPlace x)
      else ofParts s (2 ^ 23) (lastPlace x + 1)) = ofParts s m' e' ∧ Rounds x m' e' := by
  have hleast : -149 ≤ lastPlace x := le_max_right _ _
  have hsmall : x < 2 ^ 127 → lastPlace x ≤ 103 := by
    intro hlt
    have hlog := (Int.lt_zpow_iff_log_lt (b := 2) (x := 127) (by norm_num) hpos).mp
      (by exact_mod_cast hlt)
    rw [lastPlace_of_pos hpos]
    omega
  have hnearest : (digits x : ℚ) * 2 ^ lastPlace x = nearest x := by
    rw [nearest, ← cast_digits hpos.le, Int.cast_natCast]
  split
  · rename_i hlt
    exact ⟨_, _, rfl, ⟨hlt, hleast, le_digits hpos⟩, hnearest, fun h => (hsmall h).trans (by decide)⟩
  · rename_i hge
    have hcarry : digits x = 2 ^ 24 := by
      have := digits_le hpos
      omega
    refine ⟨_, _, rfl, ⟨by decide, by omega, .inl le_rfl⟩, ?_, fun h => by have := hsmall h; omega⟩
    rw [← hnearest, hcarry, zpow_add_one₀ two_ne_zero]
    push_cast
    ring

/-- Rounding a positive number gives a float that is as near to it as there is. -/
theorem exists_round (s : Sign) {m : ℕ} (hm : m ≠ 0) (e : ℤ) {x : ℚ} (hx : x = m * 2 ^ e) :
    ∃ m' e', UnpackedFloat.round Format.binary32 s m e = ofParts s m' e' ∧ Rounds x m' e' := by
  have hpos : 0 < x := by
    have : (0 : ℚ) < m := by exact_mod_cast Nat.pos_of_ne_zero hm
    rw [hx]
    positivity
  rw [round_eq s hm e hx]
  exact exists_rounds s hpos

/-- A decoded float that stands for a number and is small enough to be encoded. -/
def Encodes (u : UnpackedFloat) (x : ℚ) : Prop :=
  ∃ s m e, u = ofParts s m e ∧ Held m e ∧ e ≤ 104 ∧ (s.apply m : ℚ) * 2 ^ e = x

theorem encodes_zero (s : Sign) : Encodes (.zero s) 0 :=
  ⟨s, 0, -149, rfl, ⟨by decide, le_rfl, .inr rfl⟩, by decide, by cases s <;> simp [Sign.apply]⟩

theorem Encodes.unpack_pack {u : UnpackedFloat} {x : ℚ} (h : Encodes u x) :
    unpack Format.binary32 (pack Format.binary32 u) = u := by
  obtain ⟨s, m, e, rfl, hheld, he, -⟩ := h
  exact Binary32.unpack_pack s hheld he

theorem Encodes.valueOf {u : UnpackedFloat} {x : ℚ} (h : Encodes u x) : valueOf u = x := by
  obtain ⟨s, m, e, rfl, -, -, hx⟩ := h
  rw [valueOf_ofParts, hx]

theorem Encodes.isFinite {u : UnpackedFloat} {x : ℚ} (h : Encodes u x) : u.isFinite = true := by
  obtain ⟨s, m, e, rfl, -⟩ := h
  unfold ofParts
  split <;> rfl

/-- A small number that a float holds is encoded as it is. -/
theorem encodes_finite (s : Sign) {m : ℕ} {e : ℤ} (hm : 0 < m) (h : Held m e)
    (hsmall : |(s.apply m : ℚ) * 2 ^ e| < 2 ^ 127) :
    Encodes (.finite s m e hm) (s.apply m * 2 ^ e) := by
  refine ⟨s, m, e, (ofParts_of_pos s hm).symm, h, ?_, rfl⟩
  have habs : |(s.apply m : ℚ) * 2 ^ e| = m * 2 ^ e := by
    have hnonneg : (0 : ℚ) ≤ m * 2 ^ e := by positivity
    cases s with
    | positive => exact abs_of_nonneg hnonneg
    | negative =>
      rw [apply_negative_mul, abs_neg]
      exact abs_of_nonneg hnonneg
  by_contra hlarge
  have hfull : 2 ^ 23 ≤ m := h.full.resolve_right (by omega)
  have hge : (2 : ℚ) ^ 127 ≤ m * 2 ^ e := by
    calc (2 : ℚ) ^ 127 ≤ 2 ^ (23 : ℕ) * 2 ^ (104 : ℤ) := by norm_num
      _ ≤ m * 2 ^ e := by
        gcongr
        · exact_mod_cast hfull
        · norm_num
        · omega
  rw [habs] at hsmall
  exact absurd hsmall (not_lt.mpr hge)

/-- Rounding a number of either sign. -/
theorem encodes_normalize (m e : ℤ) {x : ℚ} (hx : x = m * 2 ^ e) (hsmall : |x| < 2 ^ 127) :
    Encodes (UnpackedFloat.normalize Format.binary32 m e .positive) (nearest x) := by
  rw [abs_lt] at hsmall
  rcases lt_trichotomy m 0 with hm | rfl | hm
  · have hneg : -x = ((-m).toNat : ℕ) * 2 ^ e := by
      rw [hx, ← neg_mul, ← Int.cast_neg]
      congr 1
      exact_mod_cast (Int.toNat_of_nonneg (by omega : 0 ≤ -m)).symm
    obtain ⟨m', e', heq, hr⟩ := exists_round .negative (by omega) e hneg
    refine ⟨.negative, m', e', ?_, hr.held, hr.small (by linarith), ?_⟩
    · rw [UnpackedFloat.normalize, show compare m 0 = .lt from Int.compare_eq_lt.mpr hm]
      exact heq
    · rw [apply_negative_mul, hr.value, nearest_neg, neg_neg]
  · rw [hx, Int.cast_zero, zero_mul, nearest_zero]
    exact encodes_zero .positive
  · have hpos : x = (m.toNat : ℕ) * 2 ^ e := by
      rw [hx]
      congr 1
      exact_mod_cast (Int.toNat_of_nonneg hm.le).symm
    obtain ⟨m', e', heq, hr⟩ := exists_round .positive (by omega) e hpos
    refine ⟨.positive, m', e', ?_, hr.held, hr.small (by linarith), hr.value⟩
    rw [UnpackedFloat.normalize, show compare m 0 = .gt from Int.compare_eq_gt.mpr hm]
    exact heq

theorem apply_decreaseExponent (s : Sign) (m : ℕ) {e t : ℤ} (h : t ≤ e) :
    (s.apply (decreaseExponent m e t).1 : ℚ) * 2 ^ t = s.apply m * 2 ^ e := by
  have hnat : ((decreaseExponent m e t).1 : ℚ) * 2 ^ t = m * 2 ^ e := by
    have hcast : ((e - t).toNat : ℤ) = e - t := Int.toNat_of_nonneg (by omega)
    rw [decreaseExponent, Nat.shiftLeft_eq, Nat.cast_mul, Nat.cast_pow, Nat.cast_ofNat, mul_assoc,
      ← zpow_natCast, ← zpow_add₀ two_ne_zero, hcast, sub_add_cancel]
  cases s with
  | positive => exact hnat
  | negative => rw [apply_negative_mul, apply_negative_mul, hnat]

/-- A decoded difference is the nearest to the exact one. -/
theorem encodes_sub {a b : UnpackedFloat} (ha : Canonical a) (hb : Canonical b)
    (hsmall : |valueOf a - valueOf b| < 2 ^ 127) :
    Encodes (sub Format.binary32 a b) (nearest (valueOf a - valueOf b)) := by
  cases a with
  | infinity s => exact ha.elim
  | notANumber => exact ha.elim
  | zero s =>
    cases b with
    | infinity t => exact hb.elim
    | notANumber => exact hb.elim
    | zero t =>
      simp only [valueOf, sub_zero, nearest_zero, sub]
      split <;> exact encodes_zero _
    | finite t m e hm =>
      -- Nothing minus a number is the number with the other sign.
      have hneg : valueOf (.zero s) - valueOf (.finite t m e hm) =
          valueOf (.finite (-t) m e hm) := by
        cases t with
        | positive => exact (zero_sub _).trans (valueOf_negative e hm).symm
        | negative =>
          rw [valueOf_negative]
          exact (sub_neg_eq_add _ _).trans (zero_add _)
      rw [hneg] at hsmall ⊢
      rw [nearest_valueOf (u := .finite (-t) m e hm) hb]
      exact encodes_finite (-t) hm hb hsmall
  | finite s m e hm =>
    cases b with
    | infinity t => exact hb.elim
    | notANumber => exact hb.elim
    | zero t =>
      have hzero : valueOf (.finite s m e hm) - valueOf (.zero t) = valueOf (.finite s m e hm) :=
        sub_zero _
      rw [hzero] at hsmall ⊢
      rw [nearest_valueOf ha]
      exact encodes_finite s hm ha hsmall
    | finite t m' e' hm' =>
      have hexact : valueOf (.finite s m e hm) - valueOf (.finite t m' e' hm') =
          (s.apply (decreaseExponent m e (min e e')).1 -
            t.apply (decreaseExponent m' e' (min e e')).1 : ℤ) * 2 ^ min e e' := by
        rw [Int.cast_sub, sub_mul, apply_decreaseExponent s m (min_le_left e e'),
          apply_decreaseExponent t m' (min_le_right e e')]
        rfl
      exact encodes_normalize _ _ hexact hsmall

/-- A float that was encoded from what survives encoding. -/
theorem Encodes.spec {u : UnpackedFloat} {q : ℚ} (h : Encodes u q) {x : Float32}
    (hx : x.toModel = Float32.Model.pack u) :
    x.toModel.unpack = u ∧ x.isFinite = true ∧ value x = q := by
  have hunpack : x.toModel.unpack = u := by
    rw [hx]
    exact h.unpack_pack
  refine ⟨hunpack, ?_, ?_⟩
  · change x.toModel.unpack.isFinite = true
    rw [hunpack]
    exact h.isFinite
  · rw [value, hunpack]
    exact h.valueOf

/-- The difference of two floats is the nearest to their exact difference. -/
theorem sub_spec {x y : Float32} (hx : x.isFinite = true) (hy : y.isFinite = true)
    (hsmall : |value x - value y| < 2 ^ 127) :
    (x - y).isFinite = true ∧ value (x - y) = nearest (value x - value y) :=
  ((encodes_sub (canonical_unpack hx) (canonical_unpack hy) hsmall).spec rfl).2

end Binary32

end Vitae
