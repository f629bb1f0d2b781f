import Mathlib.Algebra.Order.Floor.Ring
import Mathlib.Data.Rat.Floor
import Mathlib.Tactic.Linarith
import Vitae.Pdf.Number

/-!
# Rounding Halves to Even

The nearest whole number, and of two equally near ones the even. The same rule is
used twice, with different grids: arithmetic keeps as many binary digits as a float
has room for, and a file shows three decimals. Here it is a function of the exact
value, so that what is rounded can be talked about before it is rounded.

## Main definitions

* `halfEven`: The nearest whole number of a fraction.
* `IsNearest`: What it is the only one of.

## Theorems

* `halfEven_of_lt`, `halfEven_of_gt`, `halfEven_of_half`: The three cases.
* `abs_sub_halfEven_le`: The nearest whole number is within a half.
* `halfEven_intCast`: A whole number is its own nearest.
* `halfEven_mono`: Rounding keeps the order.
* `halfEven_neg`: Rounding does not depend on the sign.
* `halfEven_div`: A quotient of natural numbers is rounded by its remainder.
* `isNearest_iff`: There is one nearest whole number.
-/

namespace Vitae

/-- The nearest whole number, of two equally near ones the even. -/
def halfEven (x : ℚ) : ℤ :=
  if Int.fract x < 1 / 2 then ⌊x⌋
  else if 1 / 2 < Int.fract x then ⌊x⌋ + 1
  else ⌊x⌋ + ⌊x⌋ % 2

theorem halfEven_of_lt {x : ℚ} (h : Int.fract x < 1 / 2) : halfEven x = ⌊x⌋ := by
  rw [halfEven, if_pos h]

theorem halfEven_of_gt {x : ℚ} (h : 1 / 2 < Int.fract x) : halfEven x = ⌊x⌋ + 1 := by
  rw [halfEven, if_neg (not_lt.mpr h.le), if_pos h]

theorem halfEven_of_half {x : ℚ} (h : Int.fract x = 1 / 2) : halfEven x = ⌊x⌋ + ⌊x⌋ % 2 := by
  rw [halfEven, if_neg (not_lt.mpr h.ge), if_neg (not_lt.mpr h.le)]

theorem halfEven_bounds (x : ℚ) : ⌊x⌋ ≤ halfEven x ∧ halfEven x ≤ ⌊x⌋ + 1 := by
  unfold halfEven
  split_ifs <;> omega

/-- The nearest whole number is within a half. -/
theorem abs_sub_halfEven_le (x : ℚ) : |x - halfEven x| ≤ 1 / 2 := by
  have hfloor : (⌊x⌋ : ℚ) = x - Int.fract x := (Int.self_sub_fract x).symm
  rcases lt_trichotomy (Int.fract x) (1 / 2) with h | h | h
  · have hnonneg := Int.fract_nonneg x
    rw [halfEven_of_lt h, hfloor, abs_le]
    constructor <;> linarith
  · -- Half of the way, the floor and the next number are equally near.
    rw [halfEven_of_half h, abs_le]
    rcases Int.emod_two_eq_zero_or_one ⌊x⌋ with hm | hm <;>
      · rw [hm]
        push_cast
        rw [hfloor, h]
        constructor <;> linarith
  · have hlt := Int.fract_lt_one x
    rw [halfEven_of_gt h, abs_le]
    push_cast
    rw [hfloor]
    constructor <;> linarith

/-- A whole number is its own nearest. -/
@[simp]
theorem halfEven_intCast (k : ℤ) : halfEven (k : ℚ) = k := by
  rw [halfEven_of_lt (by rw [Int.fract_intCast]; norm_num), Int.floor_intCast]

/-- Rounding keeps the order. -/
theorem halfEven_mono {x y : ℚ} (h : x ≤ y) : halfEven x ≤ halfEven y := by
  rcases (Int.floor_le_floor h).lt_or_eq with hlt | heq
  · have hx := halfEven_bounds x
    have hy := halfEven_bounds y
    omega
  · -- Between two whole numbers the fractions are in the same order.
    have hfract : Int.fract x ≤ Int.fract y := by
      rw [Int.fract, Int.fract, heq]
      linarith
    unfold halfEven
    rw [heq]
    have hm := Int.emod_two_eq_zero_or_one ⌊y⌋
    split_ifs <;> first | omega | linarith

/-- The nearest whole number is the only one that is nearer than a half. -/
theorem halfEven_eq_of_abs_sub_lt {x : ℚ} {k : ℤ} (h : |x - k| < 1 / 2) : halfEven x = k := by
  have hnear := abs_sub_halfEven_le x
  rw [abs_le] at hnear
  rw [abs_lt] at h
  have hlt : ((halfEven x : ℤ) : ℚ) < k + 1 := by linarith
  have hgt : ((k : ℤ) : ℚ) < halfEven x + 1 := by linarith
  have hlt : halfEven x < k + 1 := by exact_mod_cast hlt
  have hgt : k < halfEven x + 1 := by exact_mod_cast hgt
  omega

/-- Rounding does not depend on the sign. -/
theorem halfEven_neg (x : ℚ) : halfEven (-x) = -halfEven x := by
  by_cases hwhole : Int.fract x = 0
  · have hx : x = (⌊x⌋ : ℚ) := by
      rw [← Int.self_sub_fract, hwhole, sub_zero]
    rw [hx, ← Int.cast_neg, halfEven_intCast, halfEven_intCast]
  · have hfract := Int.fract_neg hwhole
    -- The whole number below the negated value is one further down.
    have hfloor : ⌊-x⌋ = -⌊x⌋ - 1 := by
      have hcast : ((⌊-x⌋ : ℤ) : ℚ) = ((-⌊x⌋ - 1 : ℤ) : ℚ) := by
        rw [← Int.self_sub_fract, hfract]
        push_cast
        rw [← Int.self_sub_fract]
        ring
      exact_mod_cast hcast
    unfold halfEven
    rw [hfract, hfloor]
    split_ifs <;> first | omega | linarith

/-- A quotient of natural numbers is rounded by its remainder. -/
theorem halfEven_div (n : ℕ) {d : ℕ} (h : 0 < d) :
    halfEven ((n : ℚ) / d) = Pdf.roundHalfEven n d := by
  have hd : (0 : ℚ) < d := by exact_mod_cast h
  have hfloor : ⌊(n : ℚ) / d⌋ = ((n / d : ℕ) : ℤ) := Rat.floor_natCast_div_natCast n d
  have hfract : Int.fract ((n : ℚ) / d) = ((n % d : ℕ) : ℚ) / d := by
    have hdivMod : (n : ℚ) = d * (n / d : ℕ) + (n % d : ℕ) := by
      exact_mod_cast (Nat.div_add_mod n d).symm
    rw [Int.fract, hfloor, Int.cast_natCast, eq_div_iff hd.ne', sub_mul, div_mul_cancel₀ _ hd.ne']
    linarith
  -- Comparing the fraction with a half is comparing twice the remainder with the divisor.
  have hlt : Int.fract ((n : ℚ) / d) < 1 / 2 ↔ 2 * (n % d) < d := by
    rw [hfract, div_lt_div_iff₀ hd two_pos, one_mul, mul_comm]
    exact_mod_cast Iff.rfl
  have hgt : 1 / 2 < Int.fract ((n : ℚ) / d) ↔ d < 2 * (n % d) := by
    rw [hfract, div_lt_div_iff₀ two_pos hd, one_mul, mul_comm]
    exact_mod_cast Iff.rfl
  simp only [halfEven, Pdf.roundHalfEven, hlt, hgt, hfloor]
  split_ifs <;> push_cast <;> rfl

/-- A whole number that none is nearer than, and that is even if another one is as near. -/
structure IsNearest (q : ℚ) (n : ℤ) : Prop where
  le : ∀ m : ℤ, |q - n| ≤ |q - m|
  even : ∀ m : ℤ, m ≠ n → |q - m| = |q - n| → Even n

/-- Half of the way between two whole numbers, the even one is taken. -/
theorem even_halfEven {q : ℚ} (h : |q - halfEven q| = 1 / 2) : Even (halfEven q) := by
  have hfract := Int.self_sub_floor q
  rcases lt_trichotomy (Int.fract q) (1 / 2) with hlt | heq | hgt
  · rw [halfEven_of_lt hlt, hfract, abs_of_nonneg (Int.fract_nonneg q)] at h
    exact absurd h hlt.ne
  · rw [halfEven_of_half heq, Int.even_iff]
    omega
  · have hone := Int.fract_lt_one q
    rw [halfEven_of_gt hgt, Int.cast_add, Int.cast_one, ← sub_sub, hfract,
      abs_of_neg (by linarith)] at h
    linarith

/-- Another whole number is at least half a unit away. -/
theorem half_le_of_ne_halfEven {q : ℚ} {m : ℤ} (h : m ≠ halfEven q) : 1 / 2 ≤ |q - m| := by
  by_contra hlt
  exact h (halfEven_eq_of_abs_sub_lt (not_le.mp hlt)).symm

/-- There is one nearest whole number. -/
theorem isNearest_iff (q : ℚ) (n : ℤ) : IsNearest q n ↔ n = halfEven q := by
  have hle := abs_sub_halfEven_le q
  constructor
  · intro h
    by_contra hne
    -- Two numbers that are equally near are both even, and they are neighbours.
    have heq : |q - n| = 1 / 2 := le_antisymm ((h.le _).trans hle) (half_le_of_ne_halfEven hne)
    have hhalf : |q - halfEven q| = 1 / 2 := le_antisymm hle (heq ▸ h.le _)
    have hn := h.even _ (Ne.symm hne) (hhalf.trans heq.symm)
    have hk := even_halfEven hhalf
    rw [abs_eq (by norm_num)] at heq hhalf
    have hapart : (n : ℚ) = halfEven q ∨ (n : ℚ) = halfEven q - 1 ∨ (n : ℚ) = halfEven q + 1 := by
      rcases heq with hn | hn <;> rcases hhalf with hk | hk
      · exact .inl (by linarith)
      · exact .inr (.inl (by linarith))
      · exact .inr (.inr (by linarith))
      · exact .inl (by linarith)
    have hapart : n = halfEven q ∨ n = halfEven q - 1 ∨ n = halfEven q + 1 := by
      exact_mod_cast hapart
    rw [Int.even_iff] at hn hk
    omega
  · rintro rfl
    refine ⟨fun m => ?_, fun m hne heq => ?_⟩
    · by_cases hm : m = halfEven q
      · rw [hm]
      · exact hle.trans (half_le_of_ne_halfEven hm)
    · exact even_halfEven (le_antisymm hle (heq ▸ half_le_of_ne_halfEven hne))

end Vitae
