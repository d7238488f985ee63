/-
  Texts as segments, and back.

  Whatever a text holds, its segment is made of letters, digits, four marks and percent signs
  (`isSegmentChar_of_mem`), so nothing in it ends the segment or the path.  And nothing is lost:
  decoding gives the text again (`percentDecode_encodeSegment`).  The induction is over the bytes of
  the text, each of which is written as itself or as a percent sign with two digits; reading goes on
  behind either.
-/
import DocStore.Http.Percent
import DocStore.Proofs.Text.Lowercase
import DocStore.Proofs.Text.Numeral
import DocStore.Proofs.Text.Utf8

namespace DocStore.Http

open Text (Utf8.encode Utf8.decode)

/-! ## The characters of a segment -/

/-- Whether a character may stand in a segment: a letter or a digit of ASCII, one of four marks, or
    the percent sign. -/
def isSegmentChar (c : Char) : Bool := c.isAlphanum || c ∈ ['-', '.', '_', '~', '%']

/-- A character of segments is one of ASCII. -/
theorem isSegmentChar_lt {c : Char} (h : isSegmentChar c = true) : c.toNat < 128 := by
  simp only [isSegmentChar, Char.isAlphanum, Bool.or_eq_true, decide_eq_true_eq, List.mem_cons,
    List.not_mem_nil, or_false] at h
  rcases h with (h | h) | h
  · have hbounds := Text.toNat_of_isAlpha h
    omega
  · have hbounds := Text.toNat_of_isDigit h
    omega
  · rcases h with rfl | rfl | rfl | rfl | rfl <;> decide

/-- An unreserved byte is one of ASCII, and is a character of segments other than the percent
    sign. -/
theorem isUnreserved_facts {b : UInt8} (h : isUnreserved b = true) :
    b.toNat < 128 ∧ b ≠ 0x25 ∧ isSegmentChar (Char.ofNat b.toNat) = true := by
  have hall : ∀ n < 256, isUnreserved (UInt8.ofNat n) = true →
      n < 128 ∧ UInt8.ofNat n ≠ 0x25 ∧ isSegmentChar (Char.ofNat n) = true := by decide +kernel
  have hb := hall b.toNat b.toNat_lt
  rw [UInt8.ofNat_toNat] at hb
  exact hb h

theorem isSegmentChar_upperHexDigit {n : Nat} (h : n < 16) :
    isSegmentChar (upperHexDigit n) = true := by
  revert n
  decide

/-- A segment has only characters of segments in it. -/
theorem isSegmentChar_of_mem {s : String} {c : Char} (h : c ∈ encodeSegment s) :
    isSegmentChar c = true := by
  rw [encodeSegment, encodeBytes, List.mem_flatMap] at h
  obtain ⟨b, -, hc⟩ := h
  split at hc
  · rename_i hkeep
    obtain rfl := List.mem_singleton.1 hc
    exact (isUnreserved_facts hkeep).2.2
  · have hb := b.toNat_lt
    simp only [percentByte, List.mem_cons, List.not_mem_nil, or_false] at hc
    rcases hc with rfl | rfl | rfl
    · rfl
    · exact isSegmentChar_upperHexDigit (by omega)
    · exact isSegmentChar_upperHexDigit (by omega)

/-- A segment does not end within itself. -/
theorem slash_notMem_encodeSegment (s : String) : '/' ∉ encodeSegment s := fun h => by
  cases isSegmentChar_of_mem h

/-! ## Reading a segment -/

/-- A character of ASCII is one byte. -/
theorem encode_ascii {c : Char} (h : c.toNat < 128) (cs : List Char) :
    Utf8.encode (c :: cs) = UInt8.ofNat c.toNat :: Utf8.encode cs := by
  have hcode : c.val.toNat ≤ 127 := Nat.le_of_lt_succ h
  have hbyte : String.utf8EncodeChar c = [UInt8.ofNat c.toNat] := by
    rw [String.utf8EncodeChar]
    exact if_pos hcode
  rw [Utf8.encode, List.flatMap_cons, hbyte]
  rfl

/-- A byte that is no percent sign stands for itself. -/
theorem decodeBytes_plain {b : UInt8} (h : b ≠ 0x25) (rest : List UInt8) :
    decodeBytes (b :: rest) = b :: decodeBytes rest := by
  rw [decodeBytes.eq_def]
  simp [h]

/-- A percent sign with two digits stands for the byte that they give. -/
theorem decodeBytes_percentByte (b : UInt8) (cs : List Char) :
    decodeBytes (Utf8.encode (percentByte b ++ cs)) = b :: decodeBytes (Utf8.encode cs) := by
  have hdigit : ∀ n < 16,
      String.utf8EncodeChar (upperHexDigit n) = [UInt8.ofNat (upperHexDigit n).toNat] ∧
        Json.hexValue? (Char.ofNat (UInt8.ofNat (upperHexDigit n).toNat).toNat) = some n := by
    decide +kernel
  have hb := b.toNat_lt
  obtain ⟨hhigh, vhigh⟩ := hdigit (b.toNat / 16) (by omega)
  obtain ⟨hlow, vlow⟩ := hdigit (b.toNat % 16) (by omega)
  have hsign : String.utf8EncodeChar '%' = [0x25] := by decide
  rw [percentByte]
  simp only [List.cons_append, List.nil_append, Utf8.encode, List.flatMap_cons, hsign, hhigh, hlow]
  rw [decodeBytes, if_pos rfl]
  simp only [vhigh, vlow, Nat.div_add_mod, UInt8.ofNat_toNat]

/-- What is written in percent coding is read back byte by byte. -/
theorem decodeBytes_encodeBytes {keep : UInt8 → Bool}
    (hkeep : ∀ b, keep b = true → b.toNat < 128 ∧ b ≠ 0x25) (bytes : List UInt8) :
    decodeBytes (Utf8.encode (encodeBytes keep bytes)) = bytes := by
  induction bytes with
  | nil => rfl
  | cons b rest ih =>
    rw [encodeBytes, List.flatMap_cons, ← encodeBytes]
    split
    · rename_i hb
      obtain ⟨hascii, hsign⟩ := hkeep b hb
      have hcode : ∀ n < 128, (Char.ofNat n).toNat = n := by decide +kernel
      have hb := hcode b.toNat hascii
      rw [List.singleton_append, encode_ascii (hb.symm ▸ hascii), hb, UInt8.ofNat_toNat,
        decodeBytes_plain hsign, ih]
    · rw [decodeBytes_percentByte, ih]

/-- What is to be kept as it is is not changed by percent coding. -/
theorem encodePart_of_kept {keep : UInt8 → Bool} {cs : List Char}
    (h : ∀ c ∈ cs, c.toNat < 128 ∧ keep (UInt8.ofNat c.toNat) = true) :
    encodePart keep cs = cs := by
  rw [encodePart]
  induction cs with
  | nil => rfl
  | cons c rest ih =>
    obtain ⟨⟨hascii, hkeep⟩, hrest⟩ := List.forall_mem_cons.1 h
    have hbyte : (UInt8.ofNat c.toNat).toNat = c.toNat :=
      UInt8.toNat_ofNat_of_lt' (show _ < 256 by omega)
    rw [encode_ascii hascii, encodeBytes, List.flatMap_cons, if_pos hkeep, ← encodeBytes, ih hrest,
      hbyte, Char.ofNat_toNat]
    rfl

/-- **A segment stands for its text.** -/
theorem percentDecode_encodeSegment (s : String) : percentDecode (encodeSegment s) = s.toList := by
  have hbytes : decodeBytes (Utf8.encode (encodeSegment s)) = Utf8.encode s.toList :=
    decodeBytes_encodeBytes (fun b hb => ⟨(isUnreserved_facts hb).1, (isUnreserved_facts hb).2.1⟩) _
  rw [percentDecode, hbytes, Text.Utf8.decode_encode]

/-- Different texts have different segments. -/
theorem encodeSegment_injective {s t : String} (h : encodeSegment s = encodeSegment t) : s = t := by
  rw [← String.toList_inj, ← percentDecode_encodeSegment s, h, percentDecode_encodeSegment]

end DocStore.Http
