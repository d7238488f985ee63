/-
  Texts as bytes, and back.

  What has been written as bytes is read back, whatever the characters are.  A character is one to
  four bytes, and reading has a lemma for each length (`decode_one` to `decode_four`).  They want
  the first byte to be a lead (`lead?`) and the second to be within the bounds that the lead gives.
  Those bounds are where care is needed: they are narrower behind four of the leads, and a written
  character keeps to them because it is neither short enough for fewer bytes, nor a surrogate, nor
  beyond the last code point.
-/
import DocStore.Text.Utf8
import Mathlib.Data.List.Basic

namespace DocStore.Text.Utf8

/-! ## Reading one character -/

variable {b b1 b2 b3 : UInt8} {bits low high : Nat} {rest : List UInt8}

theorem decode_one (h : b.toNat < 0x80) :
    decode (b :: rest) = Char.ofNat b.toNat :: decode rest := by
  rw [decode, if_pos h]

theorem decode_two (h : ¬ b.toNat < 0x80) (hlead : lead? b.toNat = some (1, bits, low, high))
    (h1 : low ≤ b1.toNat ∧ b1.toNat ≤ high) :
    decode (b :: b1 :: rest) = Char.ofNat (extend bits b1) :: decode rest := by
  rw [decode, if_neg h, hlead]
  simp only [show ¬ (b1.toNat < low ∨ high < b1.toNat) by omega, if_false, if_true]

theorem decode_three (h : ¬ b.toNat < 0x80) (hlead : lead? b.toNat = some (2, bits, low, high))
    (h1 : low ≤ b1.toNat ∧ b1.toNat ≤ high) (h2 : continues b2 = true) :
    decode (b :: b1 :: b2 :: rest) = Char.ofNat (extend (extend bits b1) b2) :: decode rest := by
  rw [decode, if_neg h, hlead]
  simp [show ¬ (b1.toNat < low ∨ high < b1.toNat) by omega, h2]

theorem decode_four (h : ¬ b.toNat < 0x80) (hlead : lead? b.toNat = some (3, bits, low, high))
    (h1 : low ≤ b1.toNat ∧ b1.toNat ≤ high) (h2 : continues b2 = true) (h3 : continues b3 = true) :
    decode (b :: b1 :: b2 :: b3 :: rest) =
      Char.ofNat (extend (extend (extend bits b1) b2) b3) :: decode rest := by
  rw [decode, if_neg h, hlead]
  simp [show ¬ (b1.toNat < low ∨ high < b1.toNat) by omega, h2, h3]

/-! ## Reading what is written -/

/-- A byte with six bits of a code point continues a sequence. -/
theorem continues_ofNat {n : Nat} : continues (UInt8.ofNat (n % 64 + 128)) = true := by
  rw [continues, UInt8.toNat_ofNat_of_lt' (show n % 64 + 128 < 256 by omega)]
  simp only [Bool.and_eq_true, decide_eq_true_eq]
  omega

/-- Six more bits. -/
theorem extend_ofNat (m n : Nat) : extend m (UInt8.ofNat (n % 64 + 128)) = m * 64 + n % 64 := by
  have hbyte : (UInt8.ofNat (n % 64 + 128)).toNat = n % 64 + 128 :=
    UInt8.toNat_ofNat_of_lt' (show _ < 256 by omega)
  unfold extend
  omega

/-- The lead of two bytes. -/
theorem lead?_two {n : Nat} (hlow : 0x80 ≤ n) (hhigh : n ≤ 0x7FF) :
    lead? (n / 64 % 32 + 192) = some (1, n / 64, 0x80, 0xBF) := by
  have hbits : n / 64 % 32 + 192 - 0xC0 = n / 64 := by omega
  rw [lead?, if_pos (by omega), hbits]

/-- The lead of three bytes, and what it wants of the second: not a form that is too long, and no
    surrogate. -/
theorem exists_lead?_three {n : Nat} (hlow : 0x800 ≤ n) (hhigh : n ≤ 0xFFFF)
    (hvalid : n < 0xD800 ∨ 0xDFFF < n) :
    ∃ low high, lead? (n / 4096 % 16 + 224) = some (2, n / 4096, low, high) ∧
      low ≤ n / 64 % 64 + 128 ∧ n / 64 % 64 + 128 ≤ high := by
  have hbits : n / 4096 % 16 + 224 - 0xE0 = n / 4096 := by omega
  by_cases hzero : n / 4096 = 0
  · exact ⟨0xA0, 0xBF, by simp [lead?, hzero], by omega, by omega⟩
  by_cases hsurrogate : n / 4096 = 13
  · exact ⟨0x80, 0x9F, by simp [lead?, hsurrogate], by omega, by omega⟩
  · refine ⟨0x80, 0xBF, ?_, by omega, by omega⟩
    rw [lead?, if_neg (by omega), if_neg (by omega), if_neg (by omega), if_pos (by omega), hbits]

/-- The lead of four bytes, and what it wants of the second: not a form that is too long, and
    nothing beyond the last code point. -/
theorem exists_lead?_four {n : Nat} (hlow : 0x10000 ≤ n) (hhigh : n < 0x110000) :
    ∃ low high, lead? (n / 262144 % 8 + 240) = some (3, n / 262144, low, high) ∧
      low ≤ n / 4096 % 64 + 128 ∧ n / 4096 % 64 + 128 ≤ high := by
  have hbits : n / 262144 % 8 + 240 - 0xF0 = n / 262144 := by omega
  by_cases hzero : n / 262144 = 0
  · exact ⟨0x90, 0xBF, by simp [lead?, hzero], by omega, by omega⟩
  by_cases hlast : n / 262144 = 4
  · exact ⟨0x80, 0x8F, by simp [lead?, hlast], by omega, by omega⟩
  · refine ⟨0x80, 0xBF, ?_, by omega, by omega⟩
    rw [lead?, if_neg (by omega), if_neg (by omega), if_neg (by omega), if_neg (by omega),
      if_neg (by omega), if_pos (by omega), hbits]

/-- **One written character is read back**, and reading goes on behind it. -/
theorem decode_encodeChar (c : Char) (rest : List UInt8) :
    decode (String.utf8EncodeChar c ++ rest) = c :: decode rest := by
  have hvalid : c.val.toNat < 0xD800 ∨ 0xDFFF < c.val.toNat ∧ c.val.toNat < 0x110000 := c.valid
  have hchar : Char.ofNat c.val.toNat = c := Char.ofNat_toNat c
  rw [String.utf8EncodeChar]
  generalize c.val.toNat = n at hvalid hchar
  split_ifs with hone htwo hthree
  · have hbyte : (UInt8.ofNat n).toNat = n := UInt8.toNat_ofNat_of_lt' (show _ < 256 by omega)
    rw [List.singleton_append, decode_one (by omega), hbyte, hchar]
  · have hbyte : (UInt8.ofNat (n / 64 % 32 + 192)).toNat = n / 64 % 32 + 192 :=
      UInt8.toNat_ofNat_of_lt' (show _ < 256 by omega)
    have hsecond : (UInt8.ofNat (n % 64 + 128)).toNat = n % 64 + 128 :=
      UInt8.toNat_ofNat_of_lt' (show _ < 256 by omega)
    have hlead := lead?_two (n := n) (by omega) htwo
    rw [List.cons_append, List.singleton_append,
      decode_two (by omega) (hbyte ▸ hlead) (by omega), extend_ofNat,
      show n / 64 * 64 + n % 64 = n by omega, hchar]
  · have hbyte : (UInt8.ofNat (n / 4096 % 16 + 224)).toNat = n / 4096 % 16 + 224 :=
      UInt8.toNat_ofNat_of_lt' (show _ < 256 by omega)
    have hsecond : (UInt8.ofNat (n / 64 % 64 + 128)).toNat = n / 64 % 64 + 128 :=
      UInt8.toNat_ofNat_of_lt' (show _ < 256 by omega)
    obtain ⟨low, high, hlead, hbounds⟩ :=
      exists_lead?_three (n := n) (by omega) hthree (by omega)
    rw [List.cons_append, List.cons_append, List.singleton_append,
      decode_three (by omega) (hbyte ▸ hlead) (hsecond.symm ▸ hbounds) continues_ofNat,
      extend_ofNat, extend_ofNat,
      show (n / 4096 * 64 + n / 64 % 64) * 64 + n % 64 = n by omega, hchar]
  · have hbyte : (UInt8.ofNat (n / 262144 % 8 + 240)).toNat = n / 262144 % 8 + 240 :=
      UInt8.toNat_ofNat_of_lt' (show _ < 256 by omega)
    have hsecond : (UInt8.ofNat (n / 4096 % 64 + 128)).toNat = n / 4096 % 64 + 128 :=
      UInt8.toNat_ofNat_of_lt' (show _ < 256 by omega)
    obtain ⟨low, high, hlead, hbounds⟩ := exists_lead?_four (n := n) (by omega) (by omega)
    rw [List.cons_append, List.cons_append, List.cons_append, List.singleton_append,
      decode_four (by omega) (hbyte ▸ hlead)
        (hsecond.symm ▸ hbounds) continues_ofNat continues_ofNat,
      extend_ofNat, extend_ofNat, extend_ofNat,
      show ((n / 262144 * 64 + n / 4096 % 64) * 64 + n / 64 % 64) * 64 + n % 64 = n by omega, hchar]

/-- **What is written is read back.** -/
theorem decode_encode (cs : List Char) : decode (encode cs) = cs := by
  induction cs with
  | nil => rfl
  | cons c rest ih => rw [encode, List.flatMap_cons, decode_encodeChar, ← encode, ih]

end DocStore.Text.Utf8
