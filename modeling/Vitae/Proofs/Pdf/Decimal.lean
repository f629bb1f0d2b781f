import Mathlib.Data.List.DropRight
import Mathlib.Tactic.FieldSimp
import Vitae.Proofs.Number.Binary32
import Vitae.Proofs.Number.HalfEven
import Vitae.Proofs.Pdf.Numeral

/-!
# Decimals in a File

What a reader finds in a coordinate. The text of a float is the decimal of a whole
number of thousandths, the nearest to the value of the float, so a reader that takes
decimals at face value gets the coordinate rounded to three decimals. Leaving out the
zeros at the end does not change what is read, since they count for nothing.

## Main definitions

* `signedText`: A whole number of thousandths as a decimal.
* `rounded`: The value of a float to three decimals.
* `readNumber`: The number that a word is, if it is one.

## Theorems

* `number_eq`: The text of a float is the decimal of its rounded value.
* `readNumber_signedText`: A decimal is read as what was written.
* `readNumber_number`: A float is read as its rounded value.
* `abs_sub_rounded_le`: The rounded value is within half a thousandth.
-/

namespace Vitae

namespace Pdf

/-- A whole number of thousandths as a decimal. -/
def signedText (k : ℤ) : List Char :=
  if k < 0 then '-' :: decimalText k.natAbs else decimalText k.natAbs

/-- The value of a float to three decimals. -/
def rounded (x : Float32) : ℚ :=
  halfEven (1000 * Binary32.value x) / 1000

/-- The rounded value is within half a thousandth. -/
theorem abs_sub_rounded_le (x : Float32) : |Binary32.value x - rounded x| ≤ 1 / 2000 := by
  have hnear := abs_sub_halfEven_le (1000 * Binary32.value x)
  rw [abs_le] at hnear ⊢
  rw [rounded]
  constructor <;> linarith

section Writing

theorem cast_thousandths (significand shift : ℕ) :
    (thousandths significand shift : ℤ) =
      halfEven (1000 * (significand * 2 ^ ((shift : ℤ) - 149))) := by
  unfold thousandths
  split
  · rename_i hshift
    -- A value without a fraction is a whole number of thousandths.
    have hwhole : (1000 : ℚ) * (significand * 2 ^ ((shift : ℤ) - 149)) =
        ((1000 * significand * Nat.pow 2 (shift - 149) : ℕ) : ℤ) := by
      have hcast : ((shift : ℤ) - 149) = ((shift - 149 : ℕ) : ℤ) := by omega
      rw [hcast, zpow_natCast, Int.cast_natCast, Nat.cast_mul, Nat.cast_mul, Nat.pow_eq,
        Nat.cast_pow, Nat.cast_ofNat, Nat.cast_ofNat, mul_assoc]
    rw [hwhole, halfEven_intCast]
  · rename_i hshift
    have hquotient : (1000 : ℚ) * (significand * 2 ^ ((shift : ℤ) - 149)) =
        (1000 * significand : ℕ) / (Nat.pow 2 (149 - shift) : ℕ) := by
      have hcast : ((shift : ℤ) - 149) = -((149 - shift : ℕ) : ℤ) := by omega
      rw [hcast, zpow_neg, zpow_natCast, Nat.pow_eq, Nat.cast_mul, Nat.cast_pow, Nat.cast_ofNat,
        Nat.cast_ofNat, div_eq_mul_inv, mul_assoc]
    have hpos : 0 < Nat.pow 2 (149 - shift) := Nat.pow_pos (by decide)
    rw [hquotient, halfEven_div _ hpos]

/-- The sign is written in front, unless there is nothing behind it. -/
theorem signedText_signed (negative : Prop) [Decidable negative] (n : ℕ) :
    signedText (if negative then -(n : ℤ) else n) =
      if negative ∧ n ≠ 0 then '-' :: decimalText n else decimalText n := by
  unfold signedText
  by_cases hneg : negative
  · rw [if_pos hneg, Int.natAbs_neg, Int.natAbs_natCast]
    by_cases hn : n = 0
    · rw [if_neg (by omega), if_neg (fun h => h.2 hn)]
    · rw [if_pos (by omega), if_pos ⟨hneg, hn⟩]
  · rw [if_neg hneg, if_neg (by omega), if_neg (fun h => hneg h.1), Int.natAbs_natCast]

/-- The text of a float is the decimal of its rounded value. -/
theorem number_eq {x : Float32} (h : x.isFinite = true) :
    number x = signedText (halfEven (1000 * Binary32.value x)) := by
  have hfinite := Binary32.exponent_ne_of_isFinite h
  rw [Binary32.value_eq h]
  unfold number bitsText
  generalize x.toBits.toNat = bits at hfinite ⊢
  simp only [Nat.pow_eq]
  rw [if_neg hfinite]
  -- The significand and the shift are those of the value.
  have hsize : (if bits / 2 ^ 23 % 256 = 0 then thousandths (bits % 2 ^ 23) 0
      else thousandths (2 ^ 23 + bits % 2 ^ 23) (bits / 2 ^ 23 % 256 - 1) : ℕ) =
      thousandths (Binary32.significandOf bits) (Binary32.exponentOf bits + 149).toNat := by
    unfold Binary32.significandOf Binary32.exponentOf
    split
    · rfl
    · congr 1
      omega
  have hshift : (((Binary32.exponentOf bits + 149).toNat : ℕ) : ℤ) - 149 =
      Binary32.exponentOf bits := by
    have := (Binary32.held_of_bits bits).least
    omega
  have hcast := cast_thousandths (Binary32.significandOf bits) (Binary32.exponentOf bits + 149).toNat
  rw [hshift] at hcast
  rw [hsize, ← signedText_signed, hcast]
  congr 1
  unfold Binary32.signOf
  split
  · simp only [Float.Model.UnpackedFloat.Sign.apply]
    rw [← halfEven_neg]
    congr 1
    push_cast
    ring
  · rfl

end Writing

section Reading

/-- The number that digits with a point among them are. -/
def readUnsigned (cs : List Char) : Option ℚ :=
  let whole := cs.takeWhile Char.isDigit
  match cs.dropWhile Char.isDigit with
  | [] => if whole = [] then none else some (Nat.ofDigitChars 10 whole 0)
  | '.' :: fraction =>
    if whole ++ fraction ≠ [] ∧ fraction.all Char.isDigit then
      some (Nat.ofDigitChars 10 (whole ++ fraction) 0 / 10 ^ fraction.length)
    else none
  | _ => none

/-- The number that a word is, if it is one. -/
def readNumber : List Char → Option ℚ
  | '-' :: cs => (readUnsigned cs).map (- ·)
  | '+' :: cs => readUnsigned cs
  | cs => readUnsigned cs

theorem readUnsigned_whole {cs : List Char} (hne : cs ≠ []) (h : ∀ c ∈ cs, c.isDigit = true) :
    readUnsigned cs = some (Nat.ofDigitChars 10 cs 0 : ℚ) := by
  have htake : cs.takeWhile Char.isDigit = cs := List.takeWhile_eq_self_iff.mpr h
  have hdrop : cs.dropWhile Char.isDigit = [] := List.dropWhile_eq_nil_iff.mpr h
  simp only [readUnsigned, htake, hdrop]
  rw [if_neg hne]

theorem readUnsigned_point {whole fraction : List Char} (hne : whole ≠ [])
    (hwhole : ∀ c ∈ whole, c.isDigit = true) (hfraction : ∀ c ∈ fraction, c.isDigit = true) :
    readUnsigned (whole ++ '.' :: fraction) =
      some (Nat.ofDigitChars 10 (whole ++ fraction) 0 / 10 ^ fraction.length : ℚ) := by
  have htake : (whole ++ '.' :: fraction).takeWhile Char.isDigit = whole := by
    rw [List.takeWhile_append_of_pos hwhole]
    exact List.append_nil whole
  have hdrop : (whole ++ '.' :: fraction).dropWhile Char.isDigit = '.' :: fraction := by
    rw [List.dropWhile_append_of_pos hwhole]
    rfl
  simp only [readUnsigned, htake, hdrop]
  rw [if_pos ⟨List.append_ne_nil_of_left_ne_nil hne _, List.all_eq_true.mpr hfraction⟩]

/-- Zeros are left out at the end only. -/
theorem exists_zeros (cs : List Char) :
    ∃ k, cs = (cs.reverse.dropWhile (fun c => c == '0')).reverse ++ List.replicate k '0' := by
  refine ⟨(cs.rtakeWhile (fun c => c == '0')).length, ?_⟩
  have hzeros : cs.rtakeWhile (fun c => c == '0') =
      List.replicate (cs.rtakeWhile (fun c => c == '0')).length '0' := by
    refine List.eq_replicate_of_mem fun c hc => ?_
    have hzero := List.mem_rtakeWhile_imp hc
    exact beq_iff_eq.mp hzero
  rw [← hzeros]
  exact List.rdropWhile_append_rtakeWhile.symm

/-- Thousandths in decimal are read as what was written. -/
theorem readUnsigned_decimalText (n : ℕ) : readUnsigned (decimalText n) = some (n / 1000 : ℚ) := by
  have hmod : ∀ k, k % 10 < 10 := fun k => Nat.mod_lt k (by decide)
  have hdigits : ∀ c ∈ [n / 100 % 10, n / 10 % 10, n % 10].map Nat.digitChar,
      c.isDigit = true := by
    intro c hc
    obtain ⟨k, hk, rfl⟩ := List.mem_map.mp hc
    simp only [List.mem_cons, List.not_mem_nil, or_false] at hk
    rw [Nat.isDigit_digitChar, decide_eq_true_iff]
    rcases hk with rfl | rfl | rfl <;> exact hmod _
  have hwhole : ∀ c ∈ Nat.toDigits 10 (n / 1000), c.isDigit = true :=
    fun c hc => Nat.isDigit_of_mem_toDigits (by decide) (by decide) hc
  have hall : Nat.ofDigitChars 10 (Nat.toDigits 10 (n / 1000) ++
      [n / 100 % 10, n / 10 % 10, n % 10].map Nat.digitChar) 0 = n := by
    simp only [List.map_cons, List.map_nil, Nat.ofDigitChars_append, Nat.ofDigitChars_ten_toDigits,
      Nat.ofDigitChars_cons_digitChar_of_lt_ten (hmod _), Nat.ofDigitChars_nil]
    omega
  have hlength : ([n / 100 % 10, n / 10 % 10, n % 10].map Nat.digitChar).length = 3 := rfl
  unfold decimalText
  simp only
  obtain ⟨k, hk⟩ := exists_zeros ([n / 100 % 10, n / 10 % 10, n % 10].map Nat.digitChar)
  generalize hkept : (([n / 100 % 10, n / 10 % 10, n % 10].map Nat.digitChar).reverse.dropWhile
    (fun c => c == '0')).reverse = kept at hk
  rw [hk, List.length_append, List.length_replicate] at hlength
  rw [hk, ← List.append_assoc, Nat.ofDigitChars_append, Nat.ofDigitChars_replicate_zero] at hall
  -- Each zero that was left out stands for a factor of ten.
  have hvalue : (Nat.ofDigitChars 10 (Nat.toDigits 10 (n / 1000) ++ kept) 0 / 10 ^ kept.length : ℚ) =
      n / 1000 := by
    have hthousand : (1000 : ℚ) = 10 ^ kept.length * 10 ^ k := by
      rw [← pow_add, hlength]
      norm_num
    have hcast : (n : ℚ) = 10 ^ k * Nat.ofDigitChars 10 (Nat.toDigits 10 (n / 1000) ++ kept) 0 := by
      exact_mod_cast hall.symm
    rw [hcast, hthousand]
    field_simp
  cases kept with
  | nil =>
    rw [readUnsigned_whole Nat.toDigits_ne_nil hwhole, ← hvalue, List.append_nil,
      List.length_nil, pow_zero, div_one]
  | cons d more =>
    rw [readUnsigned_point Nat.toDigits_ne_nil hwhole, hvalue]
    intro c hc
    refine hdigits c ?_
    rw [hk]
    exact List.mem_append_left _ hc

theorem head_decimalText (n : ℕ) : ∃ c cs, decimalText n = c :: cs ∧ c.isDigit = true := by
  have hwhole : ∃ c cs, Nat.toDigits 10 (n / 1000) = c :: cs ∧ c.isDigit = true := by
    obtain ⟨c, cs, heq⟩ := List.exists_cons_of_ne_nil (Nat.toDigits_ne_nil (b := 10) (n := n / 1000))
    refine ⟨c, cs, heq, Nat.isDigit_of_mem_toDigits (by decide) (by decide)
      (heq ▸ List.mem_cons_self)⟩
  obtain ⟨c, cs, heq, hdigit⟩ := hwhole
  unfold decimalText
  simp only
  split
  · exact ⟨c, cs, heq, hdigit⟩
  · exact ⟨c, _, by rw [heq]; rfl, hdigit⟩

/-- A decimal is read as what was written. -/
theorem readNumber_signedText (k : ℤ) : readNumber (signedText k) = some (k / 1000 : ℚ) := by
  unfold signedText
  split
  · rename_i hneg
    have hcast : ((k.natAbs : ℕ) : ℚ) = -k := by
      rw [← Int.cast_natCast, ← Int.cast_neg]
      congr 1
      omega
    rw [readNumber, readUnsigned_decimalText, Option.map_some, hcast, neg_div, neg_neg]
  · rename_i hneg
    have hcast : ((k.natAbs : ℕ) : ℚ) = k := by
      rw [← Int.cast_natCast]
      congr 1
      omega
    have hread := readUnsigned_decimalText k.natAbs
    obtain ⟨c, cs, heq, hdigit⟩ := head_decimalText k.natAbs
    rw [heq] at hread ⊢
    -- A digit is no sign.
    have hsign : readNumber (c :: cs) = readUnsigned (c :: cs) := by
      unfold readNumber
      split
      · rename_i hminus
        rw [(List.cons.inj hminus).1] at hdigit
        exact absurd hdigit (by decide)
      · rename_i hplus
        rw [(List.cons.inj hplus).1] at hdigit
        exact absurd hdigit (by decide)
      · rfl
    rw [hsign, hread, hcast]

/-- A float is read as its rounded value. -/
theorem readNumber_number {x : Float32} (h : x.isFinite = true) :
    readNumber (number x) = some (rounded x) := by
  rw [number_eq h, readNumber_signedText, rounded]

end Reading

end Pdf

end Vitae
