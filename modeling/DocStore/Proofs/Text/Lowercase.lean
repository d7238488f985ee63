/-
  What a text in lower case is made of.

  Putting a text in lower case never makes up a character: what comes out was there before, or it is
  one of the small letters that the table of capitals leads to (`mem_lowerBehind`).  So a character
  that is none of them, such as a delimiter, is in the lower case only if it is in the text.

  In front of anything else, a text in ASCII is put in lower case letter by letter
  (`lowerBehind_append_of_ascii`); only the capital sigma looks at what is around it.
-/
import DocStore.Text.Lowercase
import Mathlib.Data.List.Basic

namespace DocStore.Text

variable {c d sep : Char} {cs : List Char}

/-! ## Small letters -/

/-- Whether a code point is that of a letter that a capital turns into, or of the point that the
    capital i with a dot leaves. -/
def isSmall (n : Nat) : Bool :=
  [0x69, 0x307, 0x3C2, 0x3C3].contains n ||
    capitalRuns.any fun (first, last, _, distance) =>
      decide (first + distance ≤ (n : Int) ∧ (n : Int) ≤ last + distance)

/-- The small letter of every capital is a character, and the first of all is the one of `A`. -/
theorem capitalRuns_valid : ∀ run ∈ capitalRuns,
    97 ≤ run.1 + run.2.2.2 ∧
      (run.2.1 + run.2.2.2 < 0xD800 ∨
        (0xDFFF < run.1 + run.2.2.2 ∧ run.2.1 + run.2.2.2 < 0x110000)) := by
  decide +kernel

/-- Before the first small letter there is none. -/
theorem isSmall_of_lt {n : Nat} (h : n < 97) : isSmall n = false := by
  rw [isSmall, Bool.or_eq_false_iff, List.any_eq_false]
  constructor
  · simp only [List.contains_eq_mem, List.mem_cons, List.not_mem_nil, or_false,
      decide_eq_false_iff_not]
    omega
  · rintro ⟨first, last, step, distance⟩ hrun
    have hfirst := (capitalRuns_valid _ hrun).1
    dsimp only at hfirst ⊢
    rw [decide_eq_true_eq]
    omega

/-- A letter in lower case is the letter itself or a small one. -/
theorem mem_lowerChar (h : d ∈ lowerChar c) : d = c ∨ isSmall d.toNat = true := by
  rw [lowerChar] at h
  split at h
  · simp only [List.mem_cons, List.not_mem_nil, or_false] at h
    rcases h with rfl | rfl <;> exact .inr (by decide +kernel)
  split at h
  · rename_i first last step distance hfind
    have hmem := List.mem_of_find?_eq_some hfind
    have hrun := List.find?_some hfind
    simp only [Bool.and_eq_true, decide_eq_true_eq] at hrun
    have hvalid := capitalRuns_valid _ hmem
    dsimp only at hvalid
    have hchar : (c.toNat + distance).toNat.isValidChar := by
      rw [Nat.isValidChar]
      omega
    have hcode : (Char.ofNat (c.toNat + distance).toNat).toNat = (c.toNat + distance).toNat := by
      rw [Char.ofNat, dif_pos hchar]
      rfl
    obtain rfl := List.mem_singleton.1 h
    refine .inr ?_
    rw [isSmall, Bool.or_eq_true]
    refine .inr (List.any_eq_true.2 ⟨_, hmem, ?_⟩)
    rw [decide_eq_true_eq, hcode]
    omega
  · exact .inl (List.mem_singleton.1 h)

/-- A text in lower case has only the characters of the text in it and small letters. -/
theorem mem_lowerBehind {before : List Char} (h : d ∈ lowerBehind before cs) :
    d ∈ cs ∨ isSmall d.toNat = true := by
  induction cs generalizing before with
  | nil => cases h
  | cons c cs ih =>
    rw [lowerBehind, List.mem_append] at h
    rcases h with h | h
    · split at h
      · refine .inr ?_
        rw [List.mem_singleton.1 h, smallSigma]
        split <;> decide +kernel
      · exact (mem_lowerChar h).imp_left fun hd : d = c => hd ▸ List.mem_cons_self
    · exact (ih h).imp_left (List.mem_cons_of_mem _)

/-- What is no small letter is in the lower case of a text only if it is in the text. -/
theorem mem_of_mem_lower (h : d ∈ lower cs) (hd : isSmall d.toNat = false) : d ∈ cs :=
  (mem_lowerBehind h).resolve_right (by rw [hd]; exact Bool.false_ne_true)

/-- Nothing is dropped for good. -/
theorem lowerBehind_ne_nil (h : cs ≠ []) (before : List Char) : lowerBehind before cs ≠ [] := by
  obtain ⟨c, rest, rfl⟩ := List.exists_cons_of_ne_nil h
  have hchar : lowerChar c ≠ [] := by
    rw [lowerChar]
    split
    · exact List.cons_ne_nil _ _
    · split <;> exact List.cons_ne_nil _ _
  rw [lowerBehind]
  split <;> simp [hchar]

/-! ## Letters of ASCII -/

/-- The codes of letters. -/
theorem toNat_of_isAlpha (h : c.isAlpha = true) :
    (65 ≤ c.toNat ∧ c.toNat ≤ 90) ∨ (97 ≤ c.toNat ∧ c.toNat ≤ 122) := by
  have hbounds : (decide (c.val ≥ 'A'.val ∧ c.val ≤ 'Z'.val) ||
      (decide (c.val ≥ 'a'.val) && decide (c.val ≤ 'z'.val))) = true := h
  simp only [Bool.or_eq_true, Bool.and_eq_true, decide_eq_true_eq, ge_iff_le,
    UInt32.le_iff_toNat_le] at hbounds
  exact hbounds

/-- What holds of the characters of ASCII and their small forms, and of every character and itself,
    holds of every character and its small form. -/
theorem forall_toLower {P : Char → Char → Prop} (hself : ∀ c, P c c)
    (h : ∀ n < 128, P (Char.ofNat n) (Char.ofNat n).toLower) (c : Char) : P c c.toLower := by
  by_cases hc : c.toNat < 128
  · simpa [Char.ofNat_toNat] using h c.toNat hc
  · have hsmall : c.toLower = c := dif_neg fun hcapital => by
      have hbound : c.toNat ≤ 90 := UInt32.le_iff_toNat_le.1 hcapital.2
      omega
    rw [hsmall]
    exact hself c

theorem toLower_toLower (c : Char) : c.toLower.toLower = c.toLower :=
  forall_toLower (P := fun c d => d.toLower = c.toLower) (fun _ => rfl) (by decide +kernel) c

theorem isAlpha_toLower (c : Char) : c.toLower.isAlpha = c.isAlpha :=
  forall_toLower (P := fun c d => d.isAlpha = c.isAlpha) (fun _ => rfl) (by decide +kernel) c

theorem isDigit_toLower (c : Char) : c.toLower.isDigit = c.isDigit :=
  forall_toLower (P := fun c d => d.isDigit = c.isDigit) (fun _ => rfl) (by decide +kernel) c

/-- A character that is no letter comes from itself only. -/
theorem toLower_eq_iff (h : sep.isAlpha = false) : c.toLower = sep ↔ c = sep := by
  have hall : c.toLower = c ∨ c.isAlpha = true :=
    forall_toLower (P := fun c d => d = c ∨ c.isAlpha = true) (fun _ => .inl rfl)
      (by decide +kernel) c
  rcases hall with hc | hc
  · rw [hc]
  · refine iff_of_false (fun e => ?_) fun e => ?_
    · rw [← isAlpha_toLower, e, h] at hc
      cases hc
    · rw [e, h] at hc
      cases hc

/-- A letter of ASCII in lower case.  Only the first run of capitals is in ASCII. -/
theorem lowerChar_of_ascii (h : c.toNat < 128) : lowerChar c = [c.toLower] := by
  have hrest : ∀ run ∈ capitalRuns.tail, 128 ≤ run.1 := by decide +kernel
  have hnone : capitalRuns.tail.find? (fun (first, last, step, _) =>
      first ≤ c.toNat && c.toNat ≤ last && (c.toNat - first) % step = 0) = none := by
    refine List.find?_eq_none.2 fun run hrun => ?_
    have hfirst := hrest run hrun
    simp only [Bool.and_eq_true, decide_eq_true_eq]
    omega
  have hruns : capitalRuns = (65, 90, 1, 32) :: capitalRuns.tail := rfl
  rw [lowerChar, if_neg (by omega), hruns, List.find?_cons, hnone]
  have hall : ∀ n < 128, (if 65 ≤ n ∧ n ≤ 90 then Char.ofNat (n + 32) else Char.ofNat n) =
      (Char.ofNat n).toLower := by decide +kernel
  have hc := hall c.toNat h
  rw [Char.ofNat_toNat] at hc
  rw [← hc]
  by_cases hcapital : 65 ≤ c.toNat ∧ c.toNat ≤ 90
  · rw [if_pos hcapital]
    simp only [hcapital, Nat.mod_one, decide_true, Bool.and_self]
    rfl
  · rw [if_neg hcapital]
    have hno : (decide (65 ≤ c.toNat) && decide (c.toNat ≤ 90)) = false := by simpa using hcapital
    simp only [hno, Bool.false_and]

/-- In front of any text, letters of ASCII are put in lower case one by one. -/
theorem lowerBehind_append_of_ascii (h : ∀ c ∈ cs, c.toNat < 128) (before rest : List Char) :
    lowerBehind before (cs ++ rest) =
      cs.map Char.toLower ++ lowerBehind (cs.reverse ++ before) rest := by
  induction cs generalizing before with
  | nil => rfl
  | cons c cs ih =>
    obtain ⟨hc, hcs⟩ := List.forall_mem_cons.1 h
    rw [List.cons_append, lowerBehind, if_neg (by omega), lowerChar_of_ascii hc, ih hcs]
    simp

/-- A text that begins in ASCII in lower case. -/
theorem lower_append_of_ascii (h : ∀ c ∈ cs, c.toNat < 128) (rest : List Char) :
    lower (cs ++ rest) = cs.map Char.toLower ++ lowerBehind cs.reverse rest := by
  rw [lower, lowerBehind_append_of_ascii h, List.append_nil]

/-- A text in ASCII in lower case. -/
theorem lower_of_ascii (h : ∀ c ∈ cs, c.toNat < 128) : lower cs = cs.map Char.toLower := by
  simpa [lowerBehind] using lower_append_of_ascii h []

end DocStore.Text
