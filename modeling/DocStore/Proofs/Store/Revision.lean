/-
  Revisions and their texts.

  A store compares revisions as texts, and everything that is said about writes rests on a text
  standing for one revision only.

  1. **Tokens** — a token is written with as many hexadecimal digits as it needs, so its text tells
     it (`tokenText_injective`), and no text of a token is empty.

  2. **Revisions** — neither part of a revision has a dash in it, so the dash between them tells
     where one ends and the other begins (`Revision.text_injective`).

  3. **Identifiers** — a document is stored under a text that is never empty (`identify_ne_empty`),
     because whatever counts as present is written with at least one character.
-/
import Mathlib.Algebra.Group.Nat.Defs
import Mathlib.Data.List.Basic
import DocStore.Store.Database

namespace DocStore

namespace Text

/-! ## Tokens -/

theorem length_hexDigits (width n : Nat) : (hexDigits width n).length = width := by
  induction width generalizing n with
  | zero => rfl
  | succ width ih => rw [hexDigits, List.length_append, ih, List.length_singleton]

/-- Different digits are written differently. -/
theorem hexDigit_injective {m n : Nat} (hm : m < 16) (hn : n < 16) (h : hexDigit m = hexDigit n) :
    m = n := by
  have hall : ∀ i j : Fin 16, hexDigit i.val = hexDigit j.val → i = j := by decide +kernel
  exact Fin.mk.inj_iff.1 (hall ⟨m, hm⟩ ⟨n, hn⟩ h)

/-- Numbers that fit into a width are told apart by their digits. -/
theorem hexDigits_injective {width m n : Nat} (hm : m < 16 ^ width) (hn : n < 16 ^ width)
    (h : hexDigits width m = hexDigits width n) : m = n := by
  induction width generalizing m n with
  | zero =>
    rw [Nat.pow_zero] at hm hn
    omega
  | succ width ih =>
    rw [hexDigits, hexDigits] at h
    obtain ⟨hfront, hlast⟩ := List.append_inj' h rfl
    -- The last digit is the remainder, and those before it are the digits of the quotient.
    have hquot : m / 16 = n / 16 := by
      rw [Nat.pow_succ] at hm hn
      exact ih (Nat.div_lt_of_lt_mul (by omega)) (Nat.div_lt_of_lt_mul (by omega)) hfront
    have hrem : m % 16 = n % 16 :=
      hexDigit_injective (Nat.mod_lt _ (by omega)) (Nat.mod_lt _ (by omega)) (List.cons.inj hlast).1
    omega

/-- No hexadecimal digit is a dash. -/
theorem dash_notMem_hexDigits (width n : Nat) : '-' ∉ hexDigits width n := by
  have hdigit : ∀ i : Fin 16, '-' ≠ hexDigit i.val := by decide +kernel
  induction width generalizing n with
  | zero => exact List.not_mem_nil
  | succ width ih =>
    rw [hexDigits, List.mem_append, List.mem_singleton, not_or]
    exact ⟨ih _, hdigit ⟨n % 16, Nat.mod_lt _ (by omega)⟩⟩

end Text

/-- A token fits into the digits it is written with. -/
theorem lt_tokenWidth (n : Nat) : n < 16 ^ max 32 (Nat.log2 n / 4 + 1) := by
  have hbits : n < 2 ^ (4 * max 32 (Nat.log2 n / 4 + 1)) :=
    Nat.lt_of_lt_of_le Nat.lt_log2_self (Nat.pow_le_pow_right (by omega) (by omega))
  rwa [Nat.pow_mul] at hbits

/-- Different tokens have different texts. -/
theorem tokenText_injective {m n : Nat} (h : tokenText m = tokenText n) : m = n := by
  have hdigits := String.ofList_injective h
  have hwidth : max 32 (Nat.log2 m / 4 + 1) = max 32 (Nat.log2 n / 4 + 1) := by
    rw [← Text.length_hexDigits (max 32 (Nat.log2 m / 4 + 1)) m, hdigits, Text.length_hexDigits]
  refine Text.hexDigits_injective (lt_tokenWidth m) (hwidth ▸ lt_tokenWidth n) ?_
  rw [hdigits, hwidth]

/-- The text of a token is not empty. -/
theorem tokenText_ne_empty (n : Nat) : tokenText n ≠ "" := by
  intro h
  have hlength : (tokenText n).toList.length = 0 := by rw [h]; rfl
  rw [tokenText, String.toList_ofList, Text.length_hexDigits] at hlength
  omega

/-! ## Revisions -/

/-- The text of a revision: the digits of its generation, a dash, and its token. -/
theorem Revision.toList_text (r : Revision) :
    r.text.toList = Nat.toDigits 10 r.generation ++ '-' :: (tokenText r.token).toList := by
  show (Nat.repr _ ++ "-" ++ tokenText _).toList = _
  rw [String.toList_append, String.toList_append, Nat.toList_repr, List.append_assoc]
  rfl

/-- The generation is written in digits, so the first dash ends it. -/
theorem dash_notMem_toDigits (generation : Nat) : '-' ∉ Nat.toDigits 10 generation := by
  intro hmem
  exact absurd (Nat.isDigit_of_mem_toDigits (by decide) (by decide) hmem) (by decide)

/-- Different revisions have different texts. -/
theorem Revision.text_injective {r r' : Revision} (h : r.text = r'.text) : r = r' := by
  have hlists := congrArg String.toList h
  rw [toList_text, toList_text, List.append_cons_inj_of_notMem (dash_notMem_toDigits _)
    (by rw [tokenText, String.toList_ofList]; exact Text.dash_notMem_hexDigits _ _)] at hlists
  obtain ⟨hgeneration, _, htoken⟩ := hlists
  have hg : r.generation = r'.generation := by
    rw [← Nat.ofDigitChars_ten_toDigits (n := r.generation), hgeneration,
      Nat.ofDigitChars_ten_toDigits]
  have ht : r.token = r'.token := tokenText_injective (String.toList_inj.1 htoken)
  calc r = ⟨r.generation, r.token⟩ := rfl
    _ = ⟨r'.generation, r'.token⟩ := by rw [hg, ht]

/-! ## Identifiers -/

/-- The text of a double is not empty: it has a point or an exponent. -/
theorem Double.toText_ne_empty (d : Double) : d.toText ≠ "" := by
  have hlayout : ∀ digits leading, layout digits leading ≠ "" := by
    intro digits leading
    unfold layout
    split
    · split <;> simp [String.append_eq_empty_iff]
    · simp [String.append_eq_empty_iff]
  by_cases h : d.significand = 0
  · simp [toText, h, String.append_eq_empty_iff]
  · simp [toText, h, String.append_eq_empty_iff, hlayout]

/-- A value as shown inside others is not empty. -/
theorem Value.shown_ne_empty (v : Value) : v.shown ≠ "" := by
  rw [shown.eq_def]
  split
  all_goals try simp [String.append_eq_empty_iff, Double.toText_ne_empty, Text.quoted]
  · rename_i n
    cases n <;> simp [Int.repr, String.append_eq_empty_iff, Nat.repr_ne_empty]
  · rename_i negative
    cases negative <;> simp
  · rename_i items
    rw [shownTuple.eq_def]
    split <;> simp [String.append_eq_empty_iff]

/-- What counts as present is written with at least one character. -/
theorem Value.written_ne_empty {v : Value} (h : v.truthy = true) : v.written ≠ "" := by
  rw [written.eq_def]
  split
  · rename_i s
    intro hempty
    rw [hempty] at h
    exact absurd h (by decide)
  · exact shown_ne_empty _

/-- No document is stored under the empty text. -/
theorem Database.identify_ne_empty (document : Object) (draws : Nat) :
    (identify document draws).1 ≠ "" := by
  rw [identify]
  split
  · rename_i hgiven
    exact Value.written_ne_empty hgiven
  · exact tokenText_ne_empty _

end DocStore
