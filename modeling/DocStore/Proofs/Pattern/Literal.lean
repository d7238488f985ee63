/-
  Patterns with a literal in them.

  A relation between texts becomes a pattern in which the operand stands for itself.  Here the text
  of such a pattern is read back:

  1. **Characters** — an ordinary character is read as itself (`readAtom?_ordinary`), and so is a
     special one behind a backslash (`readAtom?_escaped`).

  2. **Literals** — an escaped operand is read as the row of its characters, whatever follows
     (`readSequence?_escapePattern`).  What follows must not begin with a repetition sign, or it
     would bind to the last character.

  3. **Whole patterns** — every pattern built around an operand is read, and the pattern is the one
     expected (`read?_pattern`).  No operand makes the reader fail.
-/
import DocStore.Filter.Selector
import DocStore.Pattern.Reading

namespace DocStore

namespace Pattern

/-- The characters of a row one after the other, and then another pattern. -/
def literal (cs : List Char) (after : Pattern) : Pattern :=
  cs.foldr (fun c p => .seq (.char c) p) after

/-- Whatever there is on a line, and then nothing. -/
def anyTail : Pattern := .seq (.star .any) .empty

/-! ## Characters -/

/-- The characters that begin a piece which is more than the character itself. -/
theorem ordinary_ne {c : Char} (h : c ∉ patternSpecials) :
    c ≠ '.' ∧ c ≠ '*' ∧ c ≠ '+' ∧ c ≠ '?' ∧ c ≠ '^' ∧ c ≠ '$' ∧ c ≠ '\x7b' ∧ c ≠ '(' ∧ c ≠ ')' ∧
      c ≠ '|' ∧ c ≠ '[' ∧ c ≠ '\\' := by
  simp only [patternSpecials, List.mem_cons, List.not_mem_nil, or_false, not_or] at h
  obtain ⟨h1, h2, h3, h4, h5, h6, h7, _, h9, h10, h11, h12, _, h14⟩ := h
  exact ⟨h1, h2, h3, h4, h5, h6, h7, h9, h10, h11, h12, h14⟩

/-- An ordinary character begins no repetition sign. -/
theorem takeRepeat?_ordinary {c : Char} (h : c ∉ patternSpecials) (rest : List Char) :
    takeRepeat? (c :: rest) = none := by
  obtain ⟨_, hstar, hplus, hmark, _, _, hbrace, _⟩ := ordinary_ne h
  simp [takeRepeat?, hstar, hplus, hmark, hbrace]

/-- An ordinary character is read as itself. -/
theorem readAtom?_ordinary {c : Char} (h : c ∉ patternSpecials) (fuel : Nat) (rest : List Char) :
    readAtom? (fuel + 1) (c :: rest) = some (false, .char c, rest) := by
  have hrep := takeRepeat?_ordinary h rest
  obtain ⟨hdot, _, _, _, hcaret, hdollar, _, hround, _, _, hsquare, hback⟩ := ordinary_ne h
  simp [readAtom?, place?, hdot, hcaret, hdollar, hrep, hback, hsquare, hround]

/-- A special character behind a backslash is read as itself. -/
theorem readAtom?_escaped {c : Char} (h : c ∈ patternSpecials) (fuel : Nat) (rest : List Char) :
    readAtom? (fuel + 1) ('\\' :: c :: rest) = some (false, .char c, rest) := by
  have hspecial : c ∈ ['.', '*', '+', '?', '^', '$', '\x7b', '\x7d', '(', ')', '|',
    '[', ']', '\\'] := h
  simp only [List.mem_cons, List.not_mem_nil, or_false] at hspecial
  rcases hspecial with h | h | h | h | h | h | h | h | h | h | h | h | h | h <;> subst h <;> rfl

/-! ## Literals -/

/-- What an operand is written as, with something behind it, begins no repetition sign unless what
    is behind it does. -/
theorem takeRepeat?_escapePattern (operand : List Char) {rest : List Char}
    (h : takeRepeat? rest = none) : takeRepeat? (escapePattern operand ++ rest) = none := by
  cases operand with
  | nil => exact h
  | cons c cs =>
    by_cases hc : c ∈ patternSpecials
    · simp [escapePattern, hc, takeRepeat?]
    · simp only [escapePattern, List.flatMap_cons, if_neg hc, List.append_assoc, List.cons_append]
      exact takeRepeat?_ordinary hc _

/-- A piece that no repetition sign follows is read as it stands. -/
theorem readRepeat?_none {isPlace : Bool} {atom : Pattern} {cs : List Char}
    (h : takeRepeat? cs = none) : readRepeat? isPlace atom cs = some (atom, cs) := by
  simp [readRepeat?, h]

/-- A sequence goes on behind an atom that no repetition sign follows. -/
theorem readSequence?_piece {fuel : Nat} {c : Char} {rest after : List Char} {isPlace : Bool}
    {atom : Pattern} (hbar : c ≠ '|') (hclose : c ≠ ')')
    (hatom : readAtom? fuel (c :: rest) = some (isPlace, atom, after))
    (hrep : takeRepeat? after = none) :
    readSequence? (fuel + 1) (c :: rest) =
      (readSequence? fuel after).map fun (q, last) => (.seq atom q, last) := by
  simp only [readSequence?, hbar, hclose, or_self, if_false, hatom, readRepeat?_none hrep]

/-- One character of an operand is read as itself. -/
theorem readSequence?_escaped_char (c : Char) (fuel : Nat) {rest : List Char}
    (h : takeRepeat? rest = none) :
    readSequence? (fuel + 2) ((if c ∈ patternSpecials then ['\\', c] else [c]) ++ rest) =
      (readSequence? (fuel + 1) rest).map fun (q, last) => (.seq (.char c) q, last) := by
  by_cases hc : c ∈ patternSpecials
  · rw [if_pos hc]
    exact readSequence?_piece (by decide) (by decide) (readAtom?_escaped hc fuel rest) h
  · rw [if_neg hc]
    obtain ⟨_, _, _, _, _, _, _, _, hclose, hbar, _⟩ := ordinary_ne hc
    exact readSequence?_piece hbar hclose (readAtom?_ordinary hc fuel rest) h

/-- An escaped operand is read as the row of its characters. -/
theorem readSequence?_escapePattern (operand : List Char) (fuel : Nat) {rest : List Char}
    (h : takeRepeat? rest = none) :
    readSequence? (fuel + 1 + operand.length) (escapePattern operand ++ rest) =
      (readSequence? (fuel + 1) rest).map fun (q, last) => (literal operand q, last) := by
  induction operand with
  | nil =>
    show readSequence? (fuel + 1) rest = _
    cases readSequence? (fuel + 1) rest <;> rfl
  | cons c cs ih =>
    have hnext := takeRepeat?_escapePattern cs h
    -- The operand is one piece longer, and what follows the piece begins no repetition sign.
    have hsplit : escapePattern (c :: cs) ++ rest =
        (if c ∈ patternSpecials then ['\\', c] else [c]) ++ (escapePattern cs ++ rest) := by
      simp [escapePattern]
    have hfuel : fuel + 1 + (c :: cs).length = (fuel + cs.length) + 2 := by
      simp only [List.length_cons]; omega
    rw [hsplit, hfuel, readSequence?_escaped_char c _ hnext,
      show fuel + cs.length + 1 = fuel + 1 + cs.length by omega, ih]
    cases readSequence? (fuel + 1) rest <;> rfl

/-! ## Whole patterns -/

/-- Whatever there is on a line, in front of something that begins no repetition sign. -/
theorem readSequence?_star_any {rest : List Char} (h : takeRepeat? rest = none) (fuel : Nat) :
    readSequence? (fuel + 2) ('.' :: '*' :: rest) =
      (readSequence? (fuel + 1) rest).map fun (q, last) => (.seq (.star .any) q, last) := by
  have hatom : readAtom? (fuel + 1) ('.' :: '*' :: rest) = some (false, .any, '*' :: rest) := rfl
  -- A mark behind the star would bind to it, but none of them follows.
  have hmark : applyMark 0 none .any rest = (.star .any, rest) := by
    unfold applyMark
    split
    · exact absurd h (by simp [takeRepeat?])
    · exact absurd h (by simp [takeRepeat?])
    · rfl
  have hrep : readRepeat? false .any ('*' :: rest) = some (.star .any, rest) := by
    have htake : takeRepeat? ('*' :: rest) = some (0, none, rest) := rfl
    simp [readRepeat?, htake, hmark, h]
  simp only [readSequence?, hatom, hrep]
  simp

/-- Whatever there is on a line, at the end of a pattern. -/
theorem readSequence?_anyTail (fuel : Nat) :
    readSequence? (fuel + 2) ['.', '*'] = some (anyTail, []) := by
  rw [readSequence?_star_any rfl]
  rfl

/-- A pattern of one choice is that choice. -/
theorem read?_of_readSequence? {cs : List Char} {p : Pattern}
    (h : readSequence? (3 * cs.length + 2) cs = some (p, [])) : read? cs = some p := by
  have hchoice : readChoice? (3 * cs.length + 2 + 1) cs = some (p, []) := by
    simp [readChoice?, h]
  simp [read?, hchoice]

end Pattern

namespace Relation

/-- The pattern that a relation between texts means, around its operand. -/
def tree? (relation : Relation) (operand : List Char) : Option Pattern :=
  match relation with
  | .contains => some (.seq (.star .any) (Pattern.literal operand Pattern.anyTail))
  | .startsWith => some (.seq .textStart (Pattern.literal operand Pattern.anyTail))
  | .endsWith => some (.seq (.star .any) (Pattern.literal operand (.seq .textEnd .empty)))
  | _ => none

open Pattern

/-- Escaping does not make an operand shorter. -/
theorem length_le_escapePattern (operand : List Char) :
    operand.length ≤ (escapePattern operand).length := by
  induction operand with
  | nil => exact Nat.le_refl 0
  | cons c cs ih =>
    have hone : 1 ≤ (if c ∈ patternSpecials then ['\\', c] else [c]).length := by
      split <;> simp
    simp only [escapePattern, List.flatMap_cons, List.length_append, List.length_cons] at ih ⊢
    omega

/-- An operand between two pieces of a pattern.  The fuel, three steps for a character and two more,
    is enough for both pieces and for each character of the operand. -/
theorem read?_around {before operand rest : List Char} {first tail : Pattern} (hne : rest ≠ [])
    (hrest : takeRepeat? rest = none)
    (hfirst : ∀ fuel cs, takeRepeat? cs = none →
      readSequence? (fuel + 2) (before ++ cs) =
        (readSequence? (fuel + 1) cs).map fun (q, last) => (.seq first q, last))
    (htail : ∀ fuel, readSequence? (fuel + 2) rest = some (tail, [])) :
    read? (before ++ escapePattern operand ++ rest) =
      some (.seq first (literal operand tail)) := by
  apply read?_of_readSequence?
  have hlen := length_le_escapePattern operand
  have hpos : 0 < rest.length := List.length_pos_iff.2 hne
  obtain ⟨fuel, hfuel⟩ : ∃ fuel, 3 * (before ++ escapePattern operand ++ rest).length + 2 =
      fuel + 1 + operand.length + 2 := by
    refine ⟨3 * (before ++ escapePattern operand ++ rest).length - 1 - operand.length, ?_⟩
    simp only [List.length_append]
    omega
  rw [hfuel, List.append_assoc, hfirst _ _ (takeRepeat?_escapePattern operand hrest),
    show fuel + 1 + operand.length + 1 = (fuel + 1) + 1 + operand.length by omega,
    readSequence?_escapePattern operand (fuel + 1) hrest, htail]
  rfl

/-- Every pattern built around an operand can be read, and it is the one that is meant. -/
theorem read?_pattern (relation : Relation) (operand : List Char) :
    (relation.pattern? operand).bind read? = relation.tree? operand := by
  have hstar : ∀ fuel cs, takeRepeat? cs = none →
      readSequence? (fuel + 2) (['.', '*'] ++ cs) =
        (readSequence? (fuel + 1) cs).map fun (q, last) => (.seq (.star .any) q, last) :=
    fun fuel cs h => readSequence?_star_any h fuel
  have hstart : ∀ fuel cs, takeRepeat? cs = none →
      readSequence? (fuel + 2) (['^'] ++ cs) =
        (readSequence? (fuel + 1) cs).map fun (q, last) => (.seq .textStart q, last) := by
    intro fuel cs h
    have hatom : readAtom? (fuel + 1) ('^' :: cs) = some (true, .textStart, cs) := rfl
    exact readSequence?_piece (by decide) (by decide) hatom h
  have hend : ∀ fuel, readSequence? (fuel + 2) ['$'] = some (.seq .textEnd .empty, []) :=
    fun _ => rfl
  cases relation with
  | contains => exact read?_around (by simp) rfl hstar readSequence?_anyTail
  | startsWith => exact read?_around (by simp) rfl hstart readSequence?_anyTail
  | endsWith => exact read?_around (by simp) rfl hstar hend
  | _ => rfl

end Relation

end DocStore
