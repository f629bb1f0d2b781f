import Vitae.Proofs.Pdf.Decimal

/-!
# The Shape of Decimals

There are many ways to write a number, and a file uses one of them. A sign stands in front
of negative numbers and of no others, so there is no negative zero. The whole digits are
all there, since zeros are only left out behind the point, and none of them is a zero in
front of another digit. Digits follow behind a point if the number is not whole, three at
most, and the last of them is not a zero.

What is written is the number of thousandths that is nearest to the value of a float. The
text is read back as exactly that number (`readNumber_signedText`), so its shape is all
that is left to say. Neither very great nor very small floats are an exception, because no
exponent is ever used.

## Main definitions

* `IsWhole`, `IsFraction`: Digits in front of a point and behind it.
* `IsDecimal`: The text of a number of thousandths.
* `fractionDigits`: The digits behind the point.

## Theorems

* `isWhole_decimal`: A natural number in decimal has no zeros in front.
* `isFraction_fractionDigits`: The digits behind the point do not end with a zero.
* `fractionDigits_eq_nil_iff`: There are digits behind the point if they are needed.
* `isDecimal_signedText`: Thousandths are written in the one shape.
* `isDecimal_number`: So is every float that is a number, after rounding.
-/

namespace Vitae

namespace Pdf

/-- Digits in front of a point: at least one, and no zero in front of another digit. -/
structure IsWhole (cs : List Char) : Prop where
  ne_nil : cs ≠ []
  digits : ∀ c ∈ cs, c.isDigit = true
  head?_ne : 1 < cs.length → cs.head? ≠ some '0'

/-- Digits behind a point: three at most, and no zero at the end. -/
structure IsFraction (cs : List Char) : Prop where
  digits : ∀ c ∈ cs, c.isDigit = true
  length_le : cs.length ≤ 3
  getLast?_ne : cs.getLast? ≠ some '0'

/-- The text of a number of thousandths. -/
structure IsDecimal (n : ℤ) (cs : List Char) : Prop where
  shape : ∃ whole fraction, IsWhole whole ∧ IsFraction fraction ∧
    cs = (if n < 0 then ['-'] else []) ++ whole ++
      (if fraction = [] then [] else '.' :: fraction) ∧
    Nat.ofDigitChars 10 whole 0 = n.natAbs / 1000 ∧ (fraction = [] ↔ 1000 ∣ n)
  value : readNumber cs = some (n / 1000 : ℚ)
  zero : n = 0 → cs = ['0']

section Whole

theorem head?_toDigits_ne {n : ℕ} (h : 0 < n) : (Nat.toDigits 10 n).head? ≠ some '0' := by
  induction n using Nat.strong_induction_on with
  | _ n ih =>
    rw [Nat.toDigits_eq_if (by decide)]
    split
    · rename_i hlt
      have hdigit : ∀ k < 10, 0 < k → k.digitChar ≠ '0' := by decide
      rw [List.head?_cons, Ne, Option.some_inj]
      exact hdigit n hlt h
    · -- The first digit is that of the number without its last digit.
      rename_i hge
      rw [List.head?_append_of_ne_nil _ Nat.toDigits_ne_nil]
      exact ih (n / 10) (by omega) (by omega)

/-- A natural number in decimal has no zeros in front. -/
theorem isWhole_decimal (n : ℕ) : IsWhole (decimal n) where
  ne_nil := Nat.toDigits_ne_nil
  digits _ h := isDigit_of_mem_decimal h
  head?_ne h := by
    refine head?_toDigits_ne (Nat.pos_of_ne_zero ?_)
    rintro rfl
    exact absurd h (by decide)

end Whole

section Fraction

/-- The digits behind the point. -/
def fractionDigits (n : ℕ) : List Char :=
  ([n / 100 % 10, n / 10 % 10, n % 10].map Nat.digitChar).rdropWhile (fun c => c == '0')

theorem decimalText_eq (n : ℕ) : decimalText n =
    decimal (n / 1000) ++ (if fractionDigits n = [] then [] else '.' :: fractionDigits n) := by
  unfold decimalText
  simp only
  split
  · rename_i hnil
    have hnil : fractionDigits n = [] := hnil
    rw [if_pos hnil, List.append_nil]
    rfl
  · rename_i hne
    have hne : ¬fractionDigits n = [] := hne
    rw [if_neg hne]
    rfl

/-- The digits behind the point do not end with a zero. -/
theorem isFraction_fractionDigits (n : ℕ) : IsFraction (fractionDigits n) where
  digits c hc := by
    have hdigit : ∀ k < 10, k.digitChar.isDigit = true := by decide
    obtain ⟨k, hk, rfl⟩ := List.mem_map.mp ((List.rdropWhile_prefix _ _).subset hc)
    simp only [List.mem_cons, List.not_mem_nil, or_false] at hk
    rcases hk with rfl | rfl | rfl <;> exact hdigit _ (Nat.mod_lt _ (by decide))
  length_le := (List.rdropWhile_prefix _ _).length_le
  getLast?_ne h := by
    have hne : fractionDigits n ≠ [] := by
      intro hnil
      rw [hnil] at h
      simp at h
    rw [List.getLast?_eq_some_getLast hne, Option.some_inj] at h
    exact List.rdropWhile_last_not _ _ hne (beq_iff_eq.mpr h)

/-- There are digits behind the point if they are needed. -/
theorem fractionDigits_eq_nil_iff (n : ℕ) : fractionDigits n = [] ↔ 1000 ∣ n := by
  have hzero : ∀ k < 10, (k.digitChar == '0') = true ↔ k = 0 := by decide
  have hmod : ∀ k, k % 10 < 10 := fun k => Nat.mod_lt k (by decide)
  rw [fractionDigits, List.rdropWhile_eq_nil_iff]
  simp only [List.map_cons, List.map_nil, List.forall_mem_cons, List.not_mem_nil, hzero _ (hmod _),
    false_implies, implies_true, and_true]
  omega

end Fraction

/-- Thousandths are written in the one shape. -/
theorem isDecimal_signedText (n : ℤ) : IsDecimal n (signedText n) where
  shape := by
    refine ⟨decimal (n.natAbs / 1000), fractionDigits n.natAbs, isWhole_decimal _,
      isFraction_fractionDigits _, ?_, ofDigitChars_decimal _, ?_⟩
    · rw [signedText, decimalText_eq]
      split
      · rfl
      · rw [List.nil_append]
    · rw [fractionDigits_eq_nil_iff]
      omega
  value := readNumber_signedText n
  zero h := by
    rw [h]
    rfl

/-- A float that is a number is written as the nearest number of thousandths, halves going
to the even one. -/
theorem isDecimal_number (x : Float32) (h : x.isFinite = true) :
    ∃ n : ℤ, (∀ m, IsNearest (1000 * Binary32.value x) m ↔ m = n) ∧ IsDecimal n (number x) := by
  refine ⟨halfEven (1000 * Binary32.value x), isNearest_iff _, ?_⟩
  rw [number_eq h]
  exact isDecimal_signedText _

/-- A negative float half of the way between two thousandths. -/
theorem isDecimal_number_half :
    (-1234.0625 : Float32).isFinite = true ∧ number (-1234.0625) = "-1234.062".toList ∧
      ∃ n : ℤ, (∀ m, IsNearest (1000 * Binary32.value (-1234.0625)) m ↔ m = n) ∧
        IsDecimal n (number (-1234.0625)) := by
  have hfinite : (-1234.0625 : Float32).isFinite = true := by decide +kernel
  exact ⟨hfinite, by decide +kernel, isDecimal_number _ hfinite⟩

end Pdf

end Vitae
