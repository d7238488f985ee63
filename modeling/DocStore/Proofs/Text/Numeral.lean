/-
  Numerals that read back.

  A store writes the position at which its next page begins as a numeral and reads it when it is
  asked for that page.  The reader takes more than the writer makes: space around the digits, a
  sign, underscores, the digits of all scripts.  What the writer makes is none of this,
  only plain digits, so all of it is passed by, and the digits are added up to the number that was
  written (`readInt?_toString`).  Only the length of a numeral is limited.
-/
import Mathlib.Algebra.Group.Nat.Defs
import DocStore.Text.Numeral

namespace DocStore.Text

/-! ## Plain digits -/

theorem toNat_of_isDigit {c : Char} (h : c.isDigit = true) : 48 ≤ c.toNat ∧ c.toNat < 58 := by
  have hbounds := Char.isDigit_iff_toNat.1 h
  have hzero : '0'.toNat = 48 := rfl
  have hnine : '9'.toNat = 57 := rfl
  omega

/-- A plain digit stands behind the first of the zeros. -/
theorem digitValue?_of_isDigit {c : Char} (h : c.isDigit = true) :
    digitValue? c = some (c.toNat - 48) := by
  have hbounds := toNat_of_isDigit h
  rw [digitValue?, digitZeros, List.find?_cons_of_pos (by simpa using hbounds)]
  rfl

/-- A plain digit is no space. -/
theorem isSpace_of_isDigit {c : Char} (h : c.isDigit = true) : isSpace c = false := by
  have hbounds := toNat_of_isDigit h
  simp only [isSpace, isBlank]
  grind

/-- Where neither end is dropped, nothing is. -/
theorem trimBoth_of_all {p : Char → Bool} {cs : List Char} (h : ∀ c ∈ cs, p c = false) :
    trimBoth p cs = cs := by
  have hfront : ∀ ds : List Char, (∀ d ∈ ds, p d = false) → ds.dropWhile p = ds := by
    intro ds hds
    cases ds with
    | nil => rfl
    | cons d rest => rw [List.dropWhile_cons_of_neg (by simp [hds d List.mem_cons_self])]
  rw [trimBoth, hfront cs h, hfront cs.reverse (fun c hc => h c (List.mem_reverse.1 hc)),
    List.reverse_reverse]

/-- A row that begins with a plain digit has no sign. -/
theorem takeSign_of_isDigit {c : Char} (h : c.isDigit = true) (rest : List Char) :
    takeSign (c :: rest) = (false, c :: rest) := by
  have hbounds := toNat_of_isDigit h
  have hminus : '-'.toNat = 45 := rfl
  have hplus : '+'.toNat = 43 := rfl
  unfold takeSign
  split
  · rename_i heq
    obtain rfl := (List.cons.inj heq).1
    omega
  · rename_i heq
    obtain rfl := (List.cons.inj heq).1
    omega
  · rfl

/-- Plain digits are added up from the left. -/
theorem readDigits?_of_isDigit {cs : List Char} (h : ∀ c ∈ cs, c.isDigit = true) (n : Nat) :
    readDigits? digitValue? true n cs = some (Nat.ofDigitChars 10 cs n) := by
  induction cs generalizing n with
  | nil => rfl
  | cons c rest ih =>
    obtain ⟨hc, hrest⟩ := List.forall_mem_cons.1 h
    rw [readDigits?, digitValue?_of_isDigit hc]
    dsimp only
    rw [ih hrest, Nat.ofDigitChars_cons]
    rfl

/-! ## Reading what was written -/

/-- **A numeral reads back**, as long as it has no more digits than a numeral may have. -/
theorem readInt?_toString {n : Nat} (h : n < 10 ^ digitLimit) :
    readInt? (toString (n : Int)) = some (n : Int) := by
  have hdigits : ∀ c ∈ Nat.toDigits 10 n, c.isDigit = true := fun c hc =>
    Nat.isDigit_of_mem_toDigits (by decide) (by decide) hc
  have hlist : (toString (n : Int)).toList = Nat.toDigits 10 n := Nat.toList_repr
  have hlength : (Nat.toDigits 10 n).length ≤ digitLimit :=
    (Nat.length_toDigits_le_iff (by decide) (by decide)).2 h
  have hvalue : Nat.ofDigitChars 10 (Nat.toDigits 10 n) 0 = n := Nat.ofDigitChars_ten_toDigits
  rw [readInt?, hlist, trimBoth_of_all fun c hc => isSpace_of_isDigit (hdigits c hc)]
  cases hcs : Nat.toDigits 10 n with
  | nil => exact absurd hcs Nat.toDigits_ne_nil
  -- The first digit is read apart, because the reader wants one before the end.
  | cons c rest =>
    rw [hcs] at hdigits hlength hvalue
    obtain ⟨hc, hrest⟩ := List.forall_mem_cons.1 hdigits
    have hcount := List.countP_le_length (p := fun c => (digitValue? c).isSome) (l := c :: rest)
    rw [takeSign_of_isDigit hc]
    dsimp only
    rw [if_neg (by omega), readDigits?, digitValue?_of_isDigit hc]
    dsimp only
    rw [readDigits?_of_isDigit hrest, ← hvalue, Nat.ofDigitChars_cons]
    rfl

end DocStore.Text
