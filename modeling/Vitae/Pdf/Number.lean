/-!
# Numbers in a File

Coordinates are written with at most three decimals and without exponents. The
value is rounded exactly, from the bits of the float: the nearest thousandth
wins, and of two equally near ones the even. Zeros at the end of the fraction
are left out, and so is the sign of zero.

Values that are no numbers have texts of their own, so that writing a file never
fails.

## Main definitions

* `roundHalfEven`: A quotient rounded to the nearest whole number.
* `thousandths`: The size of a float in thousandths.
* `decimalText`: Thousandths as a decimal.
* `number`: The text of a float.

## Theorems

* `roundHalfEven_near`: The rounded quotient is within half a unit.
-/

namespace Vitae

namespace Pdf

/-- A quotient rounded to the nearest whole number, halves to the even one. -/
def roundHalfEven (num den : Nat) : Nat :=
  let q := num / den
  let r := num % den
  if 2 * r < den then q
  else if den < 2 * r then q + 1
  else q + q % 2

/-- The rounded quotient is within half a unit of the quotient. -/
theorem roundHalfEven_near (num : Nat) {den : Nat} (h : 0 < den) :
    2 * num ≤ 2 * den * roundHalfEven num den + den ∧
      2 * den * roundHalfEven num den ≤ 2 * num + den := by
  have hdiv := Nat.div_add_mod num den
  have hlt := Nat.mod_lt num h
  generalize hq : num / den = q at hdiv
  generalize hr : num % den = r at hdiv hlt
  have key : 2 * num = 2 * den * q + 2 * r := by
    rw [← hdiv, Nat.mul_add, Nat.mul_assoc]
  simp only [roundHalfEven, hq, hr]
  split
  · omega
  · split
    · have : 2 * den * (q + 1) = 2 * den * q + 2 * den := by rw [Nat.mul_add, Nat.mul_one]
      omega
    · rcases Nat.mod_two_eq_zero_or_one q with hm | hm
      · simp only [hm, Nat.add_zero]
        omega
      · have : 2 * den * (q + 1) = 2 * den * q + 2 * den := by
          rw [Nat.mul_add, Nat.mul_one]
        simp only [hm]
        omega

/-- The size of a finite float in thousandths, given its significand and the
power of two that scales it, of which `shift` is 149 more. -/
def thousandths (significand shift : Nat) : Nat :=
  if 149 ≤ shift then 1000 * significand * Nat.pow 2 (shift - 149)
  else roundHalfEven (1000 * significand) (Nat.pow 2 (149 - shift))

def decimalText (n : Nat) : List Char :=
  let whole := Nat.toDigits 10 (n / 1000)
  let fraction := [n / 100 % 10, n / 10 % 10, n % 10].map Nat.digitChar
  match (fraction.reverse.dropWhile (fun c => c == '0')).reverse with
  | [] => whole
  | digits => whole ++ '.' :: digits

/-- The text of a float with the given bits. -/
def bitsText (bits : Nat) : List Char :=
  let negative := bits / Nat.pow 2 31 % 2 = 1
  let exponent := bits / Nat.pow 2 23 % 256
  let fraction := bits % Nat.pow 2 23
  if exponent = 255 then
    if fraction ≠ 0 then ['N', 'a', 'N']
    else if negative then ['-', 'i', 'n', 'f']
    else ['i', 'n', 'f']
  else
    let n :=
      if exponent = 0 then thousandths fraction 0
      else thousandths (Nat.pow 2 23 + fraction) (exponent - 1)
    if negative ∧ n ≠ 0 then '-' :: decimalText n else decimalText n

def number (x : Float32) : List Char :=
  bitsText x.toBits.toNat

end Pdf

end Vitae
