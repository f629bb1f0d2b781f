import Mathlib.Data.List.Basic
import Mathlib.Tactic.SplitIfs
import Vitae.Text.Utf8

/-!
# Reading Back What Was Encoded

A byte string encodes at most one text, and it encodes one exactly if the strict reading
accepts it (`decode?_eq_some_iff`). So a text that is written to a file is read back as
it was, and a path that can be read as text is not changed by being written down.

Both directions go through the scan, one character at a time. The bytes of a character
are scanned as the character, whatever follows (`scanFrom_utf8EncodeChar`). A scan that
yields characters only begins with the bytes of the first of them (`exists_head`), since
the bounds on the second byte leave no room for overlong forms or surrogates.

## Main definitions

* `tailByte`: A byte behind the first one of a character.

## Theorems

* `lead_two`, `lead_three`, `lead_four`, `lead_cases`: What a first byte promises.
* `scanFrom_utf8EncodeChar`: The bytes of a character are read as the character.
* `eq_of_scan`: Bytes that are read as characters are the bytes of these characters.
* `mapM_eq_some_iff`: What reading one by one comes to.
* `decode?_eq_some_iff`: Reading accepts exactly what encoding produces.
* `mem_encode_iff`: A byte of seven bits is found where its character is.
-/

namespace Vitae

namespace Utf8

section Scan

variable {p : Pending} {b : UInt8}

/-- A byte that continues the character that is incomplete, and completes it. -/
theorem scanFrom_last (hmissing : p.missing ≤ 1) (hleast : p.least ≤ b) (hgreatest : b ≤ p.greatest)
    (rest : Bytes) :
    scanFrom (some p) (b :: rest) =
      some (Char.ofNat (p.value * 64 + (b.toNat - 0x80))) :: scanFrom none rest := by
  have hwithin : (p.least ≤ b && b ≤ p.greatest) = true := by
    rw [decide_eq_true hleast, decide_eq_true hgreatest, Bool.and_self]
  simp only [scanFrom, step, if_pos hwithin, if_pos hmissing, List.cons_append, List.nil_append]

/-- A byte that continues the character that is incomplete and leaves it so. -/
theorem scanFrom_more (hmissing : 1 < p.missing) (hleast : p.least ≤ b)
    (hgreatest : b ≤ p.greatest) (rest : Bytes) :
    scanFrom (some p) (b :: rest) =
      scanFrom (some ⟨p.value * 64 + (b.toNat - 0x80), p.missing - 1, 0x80, 0xBF⟩) rest := by
  have hwithin : (p.least ≤ b && b ≤ p.greatest) = true := by
    rw [decide_eq_true hleast, decide_eq_true hgreatest, Bool.and_self]
  simp only [scanFrom, step, if_pos hwithin, if_neg (Nat.not_le.mpr hmissing), List.nil_append]

/-- What is incomplete must be continued, or the bytes are no text. -/
theorem continued_of_scanFrom {bytes : Bytes} {cs : List Char}
    (h : scanFrom (some p) bytes = cs.map some) :
    ∃ b rest, bytes = b :: rest ∧ p.least ≤ b ∧ b ≤ p.greatest := by
  cases bytes with
  | nil =>
    cases cs with
    | nil => cases h
    | cons c cs => cases h
  | cons b rest =>
    refine ⟨b, rest, rfl, ?_⟩
    by_contra hout
    have hwithin : (p.least ≤ b && b ≤ p.greatest) = false := by
      rw [← Bool.not_eq_true, Bool.and_eq_true, decide_eq_true_eq, decide_eq_true_eq]
      exact hout
    simp only [scanFrom, step, hwithin, Bool.false_eq_true, if_false, List.cons_append] at h
    cases cs with
    | nil => cases h
    | cons c cs => cases h

theorem scanFrom_ascii (hb : b < 0x80) (rest : Bytes) :
    scanFrom none (b :: rest) = some (Char.ofNat b.toNat) :: scanFrom none rest := by
  simp only [scanFrom, step, begin, if_pos hb, List.cons_append, List.nil_append]

theorem scanFrom_lead (hb : ¬b < 0x80) (h : lead b = some p) (rest : Bytes) :
    scanFrom none (b :: rest) = scanFrom (some p) rest := by
  simp only [scanFrom, step, begin, if_neg hb, h, List.nil_append]

end Scan

/-- What the first byte of a character of two, three or four bytes promises. The rest of
its number are the upper bits of the character. -/
theorem lead_two {b : UInt8} {k : Nat} (hb : b.toNat = 192 + k) (hleast : 2 ≤ k) (hk : k < 32) :
    lead b = some ⟨k, 1, 0x80, 0xBF⟩ := by
  unfold lead
  simp only [hb]
  rw [if_pos (by simp only [Bool.and_eq_true, decide_eq_true_eq]; omega), Nat.add_sub_cancel_left]

theorem lead_three {b : UInt8} {k : Nat} (hb : b.toNat = 224 + k) (hk : k < 16) :
    lead b = some ⟨k, 2, if k = 0 then 0xA0 else 0x80, if k = 13 then 0x9F else 0xBF⟩ := by
  unfold lead
  simp only [hb, Bool.and_eq_true, decide_eq_true_eq, beq_iff_eq]
  rw [if_neg (by omega)]
  by_cases hzero : k = 0
  · subst hzero
    rfl
  · by_cases hsurrogates : k = 13
    · subst hsurrogates
      rfl
    · rw [if_neg (by omega), if_neg (by omega), if_pos (by omega), if_neg hzero,
        if_neg hsurrogates, Nat.add_sub_cancel_left]

theorem lead_four {b : UInt8} {k : Nat} (hb : b.toNat = 240 + k) (hk : k < 5) :
    lead b = some ⟨k, 3, if k = 0 then 0x90 else 0x80, if k = 4 then 0x8F else 0xBF⟩ := by
  unfold lead
  simp only [hb, Bool.and_eq_true, decide_eq_true_eq, beq_iff_eq]
  rw [if_neg (by omega), if_neg (by omega), if_neg (by omega), if_neg (by omega)]
  by_cases hzero : k = 0
  · subst hzero
    rfl
  · by_cases hlast : k = 4
    · subst hlast
      rfl
    · rw [if_neg (by omega), if_pos (by omega), if_neg hzero, if_neg hlast,
        Nat.add_sub_cancel_left]

/-- No other byte begins a character of several bytes. -/
theorem lead_cases {b : UInt8} {p : Pending} (h : lead b = some p) :
    (∃ k, 2 ≤ k ∧ k < 32 ∧ b.toNat = 192 + k) ∨ (∃ k < 16, b.toNat = 224 + k) ∨
      ∃ k < 5, b.toNat = 240 + k := by
  unfold lead at h
  simp only [Bool.and_eq_true, decide_eq_true_eq, beq_iff_eq] at h
  split_ifs at h with htwo hfirst hsurrogates hthree hfour hmiddle hlast
  · exact .inl ⟨b.toNat - 192, by omega, by omega, by omega⟩
  · exact .inr (.inl ⟨b.toNat - 224, by omega, by omega⟩)
  · exact .inr (.inl ⟨b.toNat - 224, by omega, by omega⟩)
  · exact .inr (.inl ⟨b.toNat - 224, by omega, by omega⟩)
  · exact .inr (.inr ⟨b.toNat - 240, by omega, by omega⟩)
  · exact .inr (.inr ⟨b.toNat - 240, by omega, by omega⟩)
  · exact .inr (.inr ⟨b.toNat - 240, by omega, by omega⟩)

/-- A byte behind the first one of a character, with six bits of its number. -/
def tailByte (n : Nat) : UInt8 :=
  UInt8.ofNat (n % 64 + 128)

theorem toNat_tailByte (n : Nat) : (tailByte n).toNat = n % 64 + 128 := by
  rw [tailByte, UInt8.toNat_ofNat']
  omega

theorem le_tailByte {bound : UInt8} {n : Nat} (h : bound.toNat ≤ n % 64 + 128) :
    bound ≤ tailByte n := by
  rw [UInt8.le_iff_toNat_le, toNat_tailByte]
  exact h

theorem tailByte_le {bound : UInt8} {n : Nat} (h : n % 64 + 128 ≤ bound.toNat) :
    tailByte n ≤ bound := by
  rw [UInt8.le_iff_toNat_le, toNat_tailByte]
  exact h

theorem scanFrom_tail_last {value : Nat} (n : Nat) (rest : Bytes) :
    scanFrom (some ⟨value, 1, 0x80, 0xBF⟩) (tailByte n :: rest) =
      some (Char.ofNat (value * 64 + n % 64)) :: scanFrom none rest := by
  have hleast : 0x80 ≤ tailByte n := le_tailByte (Nat.le_add_left 128 _)
  have hgreatest : tailByte n ≤ 0xBF := tailByte_le (by
    have := Nat.mod_lt n (show 0 < 64 by decide)
    exact Nat.add_le_add_right (Nat.le_of_lt_succ this) 128)
  rw [scanFrom_last (Nat.le_refl 1) hleast hgreatest, toNat_tailByte, Nat.add_sub_cancel]

theorem scanFrom_tail_more {value missing : Nat} {least greatest : UInt8} {n : Nat}
    (hleast : least.toNat ≤ n % 64 + 128) (hgreatest : n % 64 + 128 ≤ greatest.toNat)
    (rest : Bytes) :
    scanFrom (some ⟨value, missing + 2, least, greatest⟩) (tailByte n :: rest) =
      scanFrom (some ⟨value * 64 + n % 64, missing + 1, 0x80, 0xBF⟩) rest := by
  have hmissing : 1 < missing + 2 := Nat.lt_of_lt_of_le Nat.one_lt_two (Nat.le_add_left 2 missing)
  rw [scanFrom_more hmissing (le_tailByte hleast) (tailByte_le hgreatest), toNat_tailByte,
    Nat.add_sub_cancel]
  rfl

section Encoding

variable {c : Char}

/-! A character takes as many bytes as its number needs. -/

theorem utf8EncodeChar_one (h : c.toNat < 0x80) :
    String.utf8EncodeChar c = [UInt8.ofNat c.toNat] := by
  have hval : c.val.toNat = c.toNat := rfl
  simp only [String.utf8EncodeChar, hval]
  rw [if_pos (Nat.le_of_lt_succ h)]

theorem utf8EncodeChar_two (hleast : 0x80 ≤ c.toNat) (h : c.toNat < 0x800) :
    String.utf8EncodeChar c = [UInt8.ofNat (192 + c.toNat / 64), tailByte c.toNat] := by
  have hval : c.val.toNat = c.toNat := rfl
  have hfirst : c.toNat / 64 % 32 + 192 = 192 + c.toNat / 64 := by omega
  simp only [String.utf8EncodeChar, hval, tailByte]
  rw [if_neg (by omega), if_pos (by omega), hfirst]

theorem utf8EncodeChar_three (hleast : 0x800 ≤ c.toNat) (h : c.toNat < 0x10000) :
    String.utf8EncodeChar c =
      [UInt8.ofNat (224 + c.toNat / 4096), tailByte (c.toNat / 64), tailByte c.toNat] := by
  have hval : c.val.toNat = c.toNat := rfl
  have hfirst : c.toNat / 4096 % 16 + 224 = 224 + c.toNat / 4096 := by omega
  simp only [String.utf8EncodeChar, hval, tailByte]
  rw [if_neg (by omega), if_neg (by omega), if_pos (by omega), hfirst]

theorem utf8EncodeChar_four (hleast : 0x10000 ≤ c.toNat) :
    String.utf8EncodeChar c =
      [UInt8.ofNat (240 + c.toNat / 262144), tailByte (c.toNat / 4096), tailByte (c.toNat / 64),
        tailByte c.toNat] := by
  have hval : c.val.toNat = c.toNat := rfl
  have hlt : c.toNat < 0x110000 := by
    rcases c.valid with h | h
    · exact Nat.lt_trans h (by decide)
    · exact h.2
  have hfirst : c.toNat / 262144 % 8 + 240 = 240 + c.toNat / 262144 := by omega
  simp only [String.utf8EncodeChar, hval, tailByte]
  rw [if_neg (by omega), if_neg (by omega), if_neg (by omega), hfirst]

end Encoding

/-- The bytes of a character are read as the character. -/
theorem scanFrom_utf8EncodeChar (c : Char) (rest : Bytes) :
    scanFrom none (String.utf8EncodeChar c ++ rest) = some c :: scanFrom none rest := by
  have hvalid : c.toNat < 0xD800 ∨ 0xDFFF < c.toNat ∧ c.toNat < 0x110000 := c.valid
  have hfirst : ∀ k m : Nat, k + m < 256 → (UInt8.ofNat (k + m)).toNat = k + m := by
    intro k m h
    rw [UInt8.toNat_ofNat']
    exact Nat.mod_eq_of_lt h
  have hlarge : ∀ k m : Nat, 128 ≤ k → k + m < 256 → ¬UInt8.ofNat (k + m) < 0x80 := by
    intro k m hk h hlt
    rw [UInt8.lt_iff_toNat_lt, hfirst k m h] at hlt
    exact absurd hlt (Nat.not_lt.mpr (Nat.le_trans hk (Nat.le_add_right k m)))
  by_cases hone : c.toNat < 0x80
  · have hlt : UInt8.ofNat c.toNat < 0x80 := by
      rw [UInt8.lt_iff_toNat_lt, UInt8.toNat_ofNat']
      exact Nat.lt_of_le_of_lt (Nat.mod_le _ _) hone
    rw [utf8EncodeChar_one hone, List.singleton_append, scanFrom_ascii hlt, UInt8.toNat_ofNat',
      Nat.mod_eq_of_lt (Nat.lt_trans hone (by decide)), Char.ofNat_toNat]
  · by_cases htwo : c.toNat < 0x800
    · have hsum : 192 + c.toNat / 64 < 256 := by omega
      rw [utf8EncodeChar_two (by omega) htwo]
      simp only [List.cons_append, List.nil_append]
      rw [scanFrom_lead (hlarge _ _ (by decide) hsum) (lead_two (hfirst _ _ hsum) (by omega) (by omega)),
        scanFrom_tail_last]
      have hback : c.toNat / 64 * 64 + c.toNat % 64 = c.toNat := by omega
      rw [hback, Char.ofNat_toNat]
    · by_cases hthree : c.toNat < 0x10000
      · have hsum : 224 + c.toNat / 4096 < 256 := by omega
        rw [utf8EncodeChar_three (by omega) hthree]
        simp only [List.cons_append, List.nil_append]
        rw [scanFrom_lead (hlarge _ _ (by decide) hsum) (lead_three (hfirst _ _ hsum) (by omega)),
          scanFrom_tail_more, scanFrom_tail_last]
        · have hback : (c.toNat / 4096 * 64 + c.toNat / 64 % 64) * 64 + c.toNat % 64 = c.toNat := by
            omega
          rw [hback, Char.ofNat_toNat]
        · -- A number that needs three bytes is not too small for them.
          split_ifs
          · change 160 ≤ _
            omega
          · change 128 ≤ _
            omega
        · -- Nor is it one of the numbers that are no characters.
          split_ifs
          · change _ ≤ 159
            omega
          · change _ ≤ 191
            omega
      · have hsum : 240 + c.toNat / 262144 < 256 := by omega
        rw [utf8EncodeChar_four (by omega)]
        simp only [List.cons_append, List.nil_append]
        rw [scanFrom_lead (hlarge _ _ (by decide) hsum) (lead_four (hfirst _ _ hsum) (by omega)),
          scanFrom_tail_more, scanFrom_tail_more, scanFrom_tail_last]
        · have hback : ((c.toNat / 262144 * 64 + c.toNat / 4096 % 64) * 64 + c.toNat / 64 % 64) * 64 +
              c.toNat % 64 = c.toNat := by
            omega
          rw [hback, Char.ofNat_toNat]
        · change 128 ≤ _
          omega
        · change _ ≤ 191
          omega
        · split_ifs
          · change 144 ≤ _
            omega
          · change 128 ≤ _
            omega
        · split_ifs
          · change _ ≤ 143
            omega
          · change _ ≤ 191
            omega

theorem scan_encode (s : String) : scan (encode s) = s.toList.map some := by
  unfold scan encode
  induction s.toList with
  | nil => rfl
  | cons c cs ih => rw [List.flatMap_cons, scanFrom_utf8EncodeChar, ih, List.map_cons]

section Reading

theorem toNat_ofNat_of_valid {n : Nat} (h : n < 0xD800 ∨ 0xDFFF < n ∧ n < 0x110000) :
    (Char.ofNat n).toNat = n := by
  have hvalid : n.isValidChar := h
  rw [Char.ofNat, dif_pos hvalid]
  rfl

variable {b b₂ b₃ b₄ : UInt8} {c : Char} {k : Nat}

theorem eq_tailByte {n : Nat} (h : n % 64 + 128 = b.toNat) : tailByte n = b := by
  rw [← UInt8.toNat_inj, toNat_tailByte, h]

theorem ofNat_eq {n : Nat} (h : n = b.toNat) : UInt8.ofNat n = b := by
  rw [h, UInt8.ofNat_toNat]

/-! Bytes whose bits make up the number of a character are the bytes of the character. -/

theorem utf8EncodeChar_eq_two (hb : b.toNat = 192 + k) (hleast : 2 ≤ k) (hk : k < 32)
    (hb₂ : 128 ≤ b₂.toNat ∧ b₂.toNat ≤ 191) (hc : c.toNat = k * 64 + (b₂.toNat - 128)) :
    String.utf8EncodeChar c = [b, b₂] := by
  rw [utf8EncodeChar_two (by omega) (by omega), ofNat_eq (b := b) (by omega),
    eq_tailByte (b := b₂) (by omega)]

theorem utf8EncodeChar_eq_three (hb : b.toNat = 224 + k) (hk : k < 16)
    (hb₂ : 128 ≤ b₂.toNat ∧ b₂.toNat ≤ 191) (hsmall : k = 0 → 160 ≤ b₂.toNat)
    (hb₃ : 128 ≤ b₃.toNat ∧ b₃.toNat ≤ 191)
    (hc : c.toNat = (k * 64 + (b₂.toNat - 128)) * 64 + (b₃.toNat - 128)) :
    String.utf8EncodeChar c = [b, b₂, b₃] := by
  rw [utf8EncodeChar_three (by omega) (by omega), ofNat_eq (b := b) (by omega),
    eq_tailByte (b := b₂) (by omega), eq_tailByte (b := b₃) (by omega)]

theorem utf8EncodeChar_eq_four (hb : b.toNat = 240 + k) (hk : k < 5)
    (hb₂ : 128 ≤ b₂.toNat ∧ b₂.toNat ≤ 191) (hsmall : k = 0 → 144 ≤ b₂.toNat)
    (hb₃ : 128 ≤ b₃.toNat ∧ b₃.toNat ≤ 191) (hb₄ : 128 ≤ b₄.toNat ∧ b₄.toNat ≤ 191)
    (hc : c.toNat =
      ((k * 64 + (b₂.toNat - 128)) * 64 + (b₃.toNat - 128)) * 64 + (b₄.toNat - 128)) :
    String.utf8EncodeChar c = [b, b₂, b₃, b₄] := by
  rw [utf8EncodeChar_four (by omega), ofNat_eq (b := b) (by omega),
    eq_tailByte (b := b₂) (by omega), eq_tailByte (b := b₃) (by omega),
    eq_tailByte (b := b₄) (by omega)]

/-- A byte within the usual bounds of those behind the first one. -/
theorem toNat_bounds (hleast : 0x80 ≤ b) (hgreatest : b ≤ 0xBF) :
    128 ≤ b.toNat ∧ b.toNat ≤ 191 :=
  ⟨UInt8.le_iff_toNat_le.mp hleast, UInt8.le_iff_toNat_le.mp hgreatest⟩

/-- A byte within bounds that are narrower behind two of the first bytes. -/
theorem toNat_narrow {low high : UInt8} {l h : Nat} (hlow : 0x80 ≤ low) (hhigh : high ≤ 0xBF)
    (hleast : (if k = l then low else 0x80) ≤ b) (hgreatest : b ≤ if k = h then high else 0xBF) :
    (128 ≤ b.toNat ∧ b.toNat ≤ 191) ∧ (k = l → low.toNat ≤ b.toNat) ∧
      (k = h → b.toNat ≤ high.toNat) := by
  rw [UInt8.le_iff_toNat_le] at hlow hhigh hleast hgreatest
  change 128 ≤ low.toNat at hlow
  change high.toNat ≤ 191 at hhigh
  refine ⟨⟨?_, ?_⟩, fun hk => ?_, fun hk => ?_⟩
  · split_ifs at hleast
    · exact Nat.le_trans hlow hleast
    · exact hleast
  · split_ifs at hgreatest
    · exact Nat.le_trans hgreatest hhigh
    · exact hgreatest
  · rwa [if_pos hk] at hleast
  · rwa [if_pos hk] at hgreatest

theorem eq_cons_of_map {x : Char} {xs : List (Option Char)} {cs : List Char}
    (h : some x :: xs = cs.map some) : ∃ others, cs = x :: others ∧ xs = others.map some := by
  rw [eq_comm, List.map_eq_cons_iff] at h
  obtain ⟨c, others, rfl, hc, hothers⟩ := h
  cases hc
  exact ⟨others, rfl, hothers.symm⟩

/-- Bytes that are read as characters begin with the bytes of the first one. -/
theorem exists_head {rest : Bytes} {cs : List Char} (h : scanFrom none (b :: rest) = cs.map some) :
    ∃ c more others, cs = c :: others ∧ b :: rest = String.utf8EncodeChar c ++ more ∧
      scanFrom none more = others.map some := by
  by_cases hb : b < 0x80
  · rw [scanFrom_ascii hb] at h
    obtain ⟨others, rfl, hothers⟩ := eq_cons_of_map h
    have hlt : b.toNat < 128 := UInt8.lt_iff_toNat_lt.mp hb
    have hc := toNat_ofNat_of_valid (.inl (Nat.lt_trans hlt (by decide)))
    refine ⟨_, rest, others, rfl, ?_, hothers⟩
    rw [utf8EncodeChar_one (hc.symm ▸ hlt), hc, UInt8.ofNat_toNat, List.singleton_append]
  · cases hlead : lead b with
    | none =>
      simp only [scanFrom, step, begin, if_neg hb, hlead, List.cons_append] at h
      cases cs <;> cases h
    | some p =>
      rw [scanFrom_lead hb hlead] at h
      obtain ⟨b₂, rest, rfl, hleast₂, hgreatest₂⟩ := continued_of_scanFrom h
      rcases lead_cases hlead with ⟨k, hk, hk', hfirst⟩ | ⟨k, hk, hfirst⟩ | ⟨k, hk, hfirst⟩
      · cases hlead.symm.trans (lead_two hfirst hk hk')
        have hb₂ := toNat_bounds hleast₂ hgreatest₂
        rw [scanFrom_last (Nat.le_refl 1) hleast₂ hgreatest₂] at h
        obtain ⟨others, rfl, hothers⟩ := eq_cons_of_map h
        have hc := toNat_ofNat_of_valid (n := k * 64 + (b₂.toNat - 128)) (by omega)
        refine ⟨_, rest, others, rfl, ?_, hothers⟩
        rw [utf8EncodeChar_eq_two hfirst hk hk' hb₂ hc]
        rfl
      · cases hlead.symm.trans (lead_three hfirst hk)
        obtain ⟨hb₂, hsmall, hlarge⟩ := toNat_narrow (by decide) (by decide) hleast₂ hgreatest₂
        rw [scanFrom_more (Nat.lt_succ_self 1) hleast₂ hgreatest₂] at h
        obtain ⟨b₃, rest, rfl, hleast₃, hgreatest₃⟩ := continued_of_scanFrom h
        have hb₃ := toNat_bounds hleast₃ hgreatest₃
        rw [scanFrom_last (Nat.le_refl 1) hleast₃ hgreatest₃] at h
        obtain ⟨others, rfl, hothers⟩ := eq_cons_of_map h
        change k = 0 → 160 ≤ b₂.toNat at hsmall
        change k = 13 → b₂.toNat ≤ 159 at hlarge
        have hc := toNat_ofNat_of_valid
          (n := (k * 64 + (b₂.toNat - 128)) * 64 + (b₃.toNat - 128)) (by omega)
        refine ⟨_, rest, others, rfl, ?_, hothers⟩
        rw [utf8EncodeChar_eq_three hfirst hk hb₂ hsmall hb₃ hc]
        rfl
      · cases hlead.symm.trans (lead_four hfirst hk)
        obtain ⟨hb₂, hsmall, hlarge⟩ := toNat_narrow (by decide) (by decide) hleast₂ hgreatest₂
        rw [scanFrom_more (by decide : 1 < 3) hleast₂ hgreatest₂] at h
        obtain ⟨b₃, rest, rfl, hleast₃, hgreatest₃⟩ := continued_of_scanFrom h
        have hb₃ := toNat_bounds hleast₃ hgreatest₃
        rw [scanFrom_more (Nat.lt_succ_self 1) hleast₃ hgreatest₃] at h
        obtain ⟨b₄, rest, rfl, hleast₄, hgreatest₄⟩ := continued_of_scanFrom h
        have hb₄ := toNat_bounds hleast₄ hgreatest₄
        rw [scanFrom_last (Nat.le_refl 1) hleast₄ hgreatest₄] at h
        obtain ⟨others, rfl, hothers⟩ := eq_cons_of_map h
        change k = 0 → 144 ≤ b₂.toNat at hsmall
        change k = 4 → b₂.toNat ≤ 143 at hlarge
        have hc := toNat_ofNat_of_valid
          (n := ((k * 64 + (b₂.toNat - 128)) * 64 + (b₃.toNat - 128)) * 64 + (b₄.toNat - 128))
          (by omega)
        refine ⟨_, rest, others, rfl, ?_, hothers⟩
        rw [utf8EncodeChar_eq_four hfirst hk hb₂ hsmall hb₃ hb₄ hc]
        rfl

/-- Bytes that are all read as characters are the bytes of these characters. -/
theorem eq_of_scan {bytes : Bytes} {cs : List Char} (h : scan bytes = cs.map some) :
    bytes = cs.flatMap String.utf8EncodeChar := by
  unfold scan at h
  induction cs generalizing bytes with
  | nil =>
    cases bytes with
    | nil => rfl
    | cons b rest =>
      obtain ⟨c, more, others, hcs, -⟩ := exists_head h
      cases hcs
  | cons c cs ih =>
    cases bytes with
    | nil => cases h
    | cons b rest =>
      obtain ⟨d, more, others, hcs, hbytes, hmore⟩ := exists_head h
      cases hcs
      rw [hbytes, ih hmore, List.flatMap_cons]

end Reading

/-- Reading one by one succeeds if everything can be read. -/
theorem mapM_eq_some_iff {α β : Type} {f : α → Option β} {xs : List α} {ys : List β} :
    xs.mapM f = some ys ↔ xs.map f = ys.map some := by
  induction xs generalizing ys with
  | nil =>
    rw [List.mapM_nil, List.map_nil, eq_comm (a := []), List.map_eq_nil_iff]
    exact ⟨fun h => (Option.some.inj h).symm, fun h => congrArg some h.symm⟩
  | cons x rest ih =>
    rw [List.mapM_cons, List.map_cons]
    cases hx : f x with
    | none =>
      constructor
      · intro h
        cases h
      · intro h
        cases ys <;> cases h
    | some y =>
      change (rest.mapM f).bind (fun others => some (y :: others)) = some ys ↔ _
      constructor
      · intro h
        obtain ⟨others, hothers, h⟩ := Option.bind_eq_some_iff.mp h
        cases h
        rw [List.map_cons, ih.mp hothers]
      · intro h
        cases ys with
        | nil => cases h
        | cons z others =>
          rw [List.map_cons, List.cons.injEq, Option.some.injEq] at h
          exact Option.bind_eq_some_iff.mpr ⟨others, ih.mpr h.2, by rw [h.1]⟩

theorem decodeChars?_eq_some_iff {bytes : Bytes} {cs : List Char} :
    decodeChars? bytes = some cs ↔ scan bytes = cs.map some := by
  rw [decodeChars?, mapM_eq_some_iff, List.map_id]

/-- Reading accepts exactly what encoding produces. -/
theorem decode?_eq_some_iff {bytes : Bytes} {s : String} :
    decode? bytes = some s ↔ bytes = encode s := by
  rw [decode?, Option.map_eq_some_iff]
  constructor
  · rintro ⟨cs, hcs, rfl⟩
    rw [encode, String.toList_ofList]
    exact eq_of_scan (decodeChars?_eq_some_iff.mp hcs)
  · rintro rfl
    exact ⟨s.toList, decodeChars?_eq_some_iff.mpr (scan_encode s), String.ofList_toList⟩

/-! ### ASCII bytes -/

/-- A byte of seven bits is all of its character. -/
theorem toNat_of_mem_utf8EncodeChar {c : Char} {b : UInt8} (h : b ∈ String.utf8EncodeChar c)
    (hb : b.toNat < 0x80) : c.toNat = b.toNat := by
  by_cases hone : c.toNat < 0x80
  · rw [utf8EncodeChar_one hone, List.mem_singleton] at h
    rw [h, UInt8.toNat_ofNat']
    omega
  · -- All bytes of a longer character have the eighth bit.
    exfalso
    have hvalid : c.toNat < 0xD800 ∨ 0xDFFF < c.toNat ∧ c.toNat < 0x110000 := c.valid
    by_cases htwo : c.toNat < 0x800
    · rw [utf8EncodeChar_two (by omega) htwo] at h
      simp only [List.mem_cons, List.not_mem_nil, or_false] at h
      rcases h with rfl | rfl
      all_goals
        simp only [UInt8.toNat_ofNat', toNat_tailByte] at hb
        omega
    · by_cases hthree : c.toNat < 0x10000
      · rw [utf8EncodeChar_three (by omega) hthree] at h
        simp only [List.mem_cons, List.not_mem_nil, or_false] at h
        rcases h with rfl | rfl | rfl
        all_goals
          simp only [UInt8.toNat_ofNat', toNat_tailByte] at hb
          omega
      · rw [utf8EncodeChar_four (by omega)] at h
        simp only [List.mem_cons, List.not_mem_nil, or_false] at h
        rcases h with rfl | rfl | rfl | rfl
        all_goals
          simp only [UInt8.toNat_ofNat', toNat_tailByte] at hb
          omega

/-- A byte of seven bits is found where its character is. -/
theorem mem_encode_iff {c : Char} (hc : c.toNat < 0x80) {s : String} :
    UInt8.ofNat c.toNat ∈ encode s ↔ c ∈ s.toList := by
  have hbyte : (UInt8.ofNat c.toNat).toNat = c.toNat := by
    rw [UInt8.toNat_ofNat']
    omega
  unfold encode
  rw [List.mem_flatMap]
  constructor
  · rintro ⟨d, hd, hmem⟩
    have heq := toNat_of_mem_utf8EncodeChar hmem (hbyte.symm ▸ hc)
    rw [hbyte] at heq
    rwa [← Char.toNat_inj.mp heq]
  · intro h
    refine ⟨c, h, ?_⟩
    rw [utf8EncodeChar_one hc]
    exact List.mem_cons_self

end Utf8

end Vitae
