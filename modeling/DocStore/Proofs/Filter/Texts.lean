/-
  What relations between texts find.

  A relation between texts is tested by searching a text for a pattern with the operand in it.  The
  pattern has signs of its own around the operand, and two of them know about lines: what stands for
  anything stops at a line end, and the end of a text is also before its last line end.  Here the
  patterns are traced back to what they find:

  1. **Searching** — a pattern is found where it can be taken off what is left of the text
     (`search_iff`).  A literal takes itself (`take_literal`), and anything takes any part of a line
     (`take_star_any`), also none.

  2. **Relations** — so a contained operand is found in every place, lines or no lines, and an
     operand at the start only there.  An operand at the end is also found before the last line end
     (`search_endsWith`).

  3. **Selectors** — the same, said of the selectors that are made of the relations.  That ends in
     the exact meaning of `endsWith`, which is not quite that of the word (`endsWith_selects`).
-/
import DocStore.Proofs.Filter.Meaning

namespace DocStore

namespace Pattern

/-! ## Searching -/

variable {total : Nat} {k : Next} {s : List Char}

/-- A pattern is found where it can be taken off what is left of the text. -/
theorem searchFrom_iff {p : Pattern} :
    searchFrom total p s = true ↔
      ∃ before rest, s = before ++ rest ∧ (take total p some rest).isSome = true := by
  induction s with
  | nil =>
    rw [searchFrom]
    constructor
    · exact fun h => ⟨[], [], rfl, h⟩
    · rintro ⟨before, rest, hs, h⟩
      obtain ⟨-, rfl⟩ := List.append_eq_nil_iff.1 hs.symm
      exact h
  | cons c cs ih =>
    rw [searchFrom, Bool.or_eq_true, ih]
    constructor
    · rintro (h | ⟨before, rest, rfl, h⟩)
      · exact ⟨[], c :: cs, rfl, h⟩
      · exact ⟨c :: before, rest, rfl, h⟩
    · rintro ⟨before, rest, hs, h⟩
      cases before with
      | nil =>
        obtain rfl : c :: cs = rest := hs
        exact .inl h
      | cons d before =>
        obtain ⟨-, rfl⟩ := List.cons.inj hs
        exact .inr ⟨before, rest, rfl, h⟩

theorem search_iff {p : Pattern} :
    p.search s = true ↔ ∃ before rest, s = before ++ rest ∧
      (take s.length p some rest).isSome = true :=
  searchFrom_iff

/-- A literal takes itself. -/
theorem take_literal {operand : List Char} {after : Pattern} :
    (take total (literal operand after) k s).isSome = true ↔
      ∃ rest, s = operand ++ rest ∧ (take total after k rest).isSome = true := by
  induction operand generalizing s with
  | nil => exact ⟨fun h => ⟨s, rfl, h⟩, fun ⟨_, hs, h⟩ => hs ▸ h⟩
  | cons c cs ih =>
    have hseq : take total (literal (c :: cs) after) k s =
        take total (.char c) (take total (literal cs after) k) s := rfl
    rw [hseq]
    cases s with
    | nil => simp [take]
    | cons d rest =>
      by_cases hd : c = d
      · subst hd
        rw [take, if_pos rfl, ih]
        simp only [List.cons_append, List.cons.injEq, true_and]
      · simp [take, hd, Ne.symm hd]

/-- Anything takes one more character of the line if it can, and else stops. -/
theorem iterate_any_cons (fuel : Nat) (d : Char) (rest : List Char) :
    iterate false (take total .any) k (fuel + 1) (d :: rest) =
      (if d ≠ '\n' then iterate false (take total .any) k fuel rest else none).or
        (k (d :: rest)) := by
  have hround : iterate false (take total .any) k (fuel + 1) (d :: rest) =
      (take total .any (iterate false (take total .any) k fuel) (d :: rest)).or
      (k (d :: rest)) := by
    -- A round that takes a character makes progress, so the next one follows.
    have hagain : take total .any (fun rest' => if rest'.length < (d :: rest).length then
        iterate false (take total .any) k fuel rest' else k rest') (d :: rest) =
          take total .any (iterate false (take total .any) k fuel) (d :: rest) := by
      rw [take, take, if_pos (show rest.length < (d :: rest).length from Nat.lt_succ_self _)]
    rw [iterate, hagain, if_neg Bool.false_ne_true]
    cases take total .any (iterate false (take total .any) k fuel) (d :: rest) <;> rfl
  rw [hround, take]

/-- Anything goes on as far as the line does, and may stop before. -/
theorem iterate_any {fuel : Nat} (hfuel : s.length ≤ fuel) :
    (iterate false (take total .any) k fuel s).isSome = true ↔
      ∃ line rest, s = line ++ rest ∧ '\n' ∉ line ∧ (k rest).isSome = true := by
  induction fuel generalizing s with
  | zero =>
    obtain rfl : s = [] := List.length_eq_zero_iff.1 (Nat.le_zero.1 hfuel)
    rw [iterate]
    constructor
    · exact fun h => ⟨[], [], rfl, List.not_mem_nil, h⟩
    · rintro ⟨line, rest, hs, -, h⟩
      obtain ⟨-, rfl⟩ := List.append_eq_nil_iff.1 hs.symm
      exact h
  | succ fuel ih =>
    -- Either another character is taken, or what follows goes on from here.
    have hstep : (iterate false (take total .any) k (fuel + 1) s).isSome = true ↔
        (∃ d rest, s = d :: rest ∧ d ≠ '\n' ∧
          (iterate false (take total .any) k fuel rest).isSome = true) ∨ (k s).isSome = true := by
      cases s with
      | nil => simp [iterate, take]
      | cons d rest =>
        rw [iterate_any_cons, Option.isSome_or, Bool.or_eq_true]
        refine or_congr ?_ Iff.rfl
        by_cases hd : d = '\n'
        · simp [hd]
        · rw [if_pos hd]
          exact ⟨fun h => ⟨d, rest, rfl, hd, h⟩, fun ⟨_, _, hs, _, h⟩ => (List.cons.inj hs).2 ▸ h⟩
    rw [hstep]
    constructor
    · rintro (⟨d, rest, rfl, hd, h⟩ | h)
      · obtain ⟨line, rest, rfl, hline, h⟩ := (ih (Nat.le_of_succ_le_succ hfuel)).1 h
        exact ⟨d :: line, rest, rfl, by simp [Ne.symm hd, hline], h⟩
      · exact ⟨[], s, rfl, List.not_mem_nil, h⟩
    · rintro ⟨line, rest, rfl, hline, h⟩
      cases line with
      | nil => exact .inr h
      | cons d line =>
        obtain ⟨hd, hline⟩ := not_or.1 (mt List.mem_cons.2 hline)
        exact .inl ⟨d, line ++ rest, rfl, Ne.symm hd,
          (ih (Nat.le_of_succ_le_succ hfuel)).2 ⟨line, rest, rfl, hline, h⟩⟩

/-- Anything takes any part of a line. -/
theorem take_star_any :
    (take total (star .any) k s).isSome = true ↔
      ∃ line rest, s = line ++ rest ∧ '\n' ∉ line ∧ (k rest).isSome = true :=
  iterate_any (Nat.le_refl _)

/-- What may stand at the end of a pattern always can. -/
theorem take_anyTail : (take total anyTail some s).isSome = true :=
  take_star_any.2 ⟨[], s, rfl, List.not_mem_nil, rfl⟩

/-! ## Relations -/

variable {operand : List Char}

/-- Between anything and anything an operand is found wherever it is contained. -/
theorem search_contains :
    search (.seq (.star .any) (literal operand anyTail)) s = true ↔ operand <:+: s := by
  rw [search_iff]
  constructor
  · rintro ⟨before, rest, rfl, h⟩
    obtain ⟨line, _, rfl, -, h⟩ := take_star_any.1 h
    obtain ⟨after, rfl, -⟩ := take_literal.1 h
    exact ⟨before ++ line, after, by simp only [List.append_assoc]⟩
  · rintro ⟨before, after, rfl⟩
    refine ⟨before, operand ++ after, List.append_assoc _ _ _, ?_⟩
    exact take_star_any.2 ⟨[], _, rfl, List.not_mem_nil, take_literal.2 ⟨after, rfl, take_anyTail⟩⟩

/-- Behind the start an operand is found only there. -/
theorem search_startsWith :
    search (.seq .textStart (literal operand anyTail)) s = true ↔ operand <+: s := by
  have htake : ∀ rest,
      (take s.length (.seq .textStart (literal operand anyTail)) some rest).isSome = true ↔
      rest.length = s.length ∧ operand <+: rest := by
    intro rest
    have hseq : take s.length (.seq .textStart (literal operand anyTail)) some rest =
        if rest.length = s.length then take s.length
        (literal operand anyTail) some rest else none := rfl
    rw [hseq]
    split
    · rename_i hlen
      rw [take_literal]
      constructor
      · exact fun ⟨after, hrest, _⟩ => ⟨hlen, after, hrest.symm⟩
      · exact fun ⟨_, after, hrest⟩ => ⟨after, hrest.symm, take_anyTail⟩
    · rename_i hlen
      exact iff_of_false (fun h => Bool.false_ne_true h) fun h => hlen h.1
  rw [search_iff]
  constructor
  · rintro ⟨before, rest, hs, h⟩
    obtain ⟨hlen, hoperand⟩ := (htake rest).1 h
    -- What is left is as long as the text, so it is the text.
    obtain rfl : before = [] := by
      have hlens := congrArg List.length hs
      rw [List.length_append] at hlens
      exact List.length_eq_zero_iff.1 (by omega)
    exact hs ▸ hoperand
  · exact fun h => ⟨[], s, rfl, (htake s).2 ⟨rfl, h⟩⟩

/-- In front of the end an operand is found there, and also before a last line end. -/
theorem search_endsWith :
    search (.seq (.star .any) (literal operand (.seq .textEnd .empty))) s = true ↔
      operand <:+ s ∨ operand ++ ['\n'] <:+ s := by
  have hend : ∀ rest, (take s.length (.seq .textEnd .empty) some rest).isSome = true ↔
      rest = [] ∨ rest = ['\n'] := by
    intro rest
    have hseq : take s.length (.seq .textEnd .empty) some rest =
        if rest = [] ∨ rest = ['\n'] then some rest else none := rfl
    rw [hseq]
    split <;> simp_all
  rw [search_iff]
  constructor
  · rintro ⟨before, rest, rfl, h⟩
    obtain ⟨line, _, rfl, -, h⟩ := take_star_any.1 h
    obtain ⟨after, rfl, h⟩ := take_literal.1 h
    rcases (hend after).1 h with rfl | rfl
    · exact .inl ⟨before ++ line, by simp only [List.append_nil, List.append_assoc]⟩
    · exact .inr ⟨before ++ line, by simp only [List.append_assoc]⟩
  · have hfound : ∀ after, after = [] ∨ after = ['\n'] → operand ++ after <:+ s →
        ∃ before rest, s = before ++ rest ∧
          (take s.length (.seq (.star .any) (literal operand (.seq .textEnd .empty))) some
            rest).isSome = true := by
      rintro after hafter ⟨before, hs⟩
      exact ⟨before, operand ++ after, hs.symm, take_star_any.2 ⟨[], _, rfl, List.not_mem_nil,
        take_literal.2 ⟨after, rfl, (hend after).2 hafter⟩⟩⟩
    rintro (h | h)
    · exact hfound [] (.inl rfl) (by rwa [List.append_nil])
    · exact hfound ['\n'] (.inr rfl) h

end Pattern

/-! ## Selectors -/

namespace Relation

/-- The selector of a relation to an operand looks for a pattern, and the store can read it: every
    text is searched for that pattern. -/
def LooksFor (relation : Relation) (operand : String) (p : Pattern) : Prop :=
  ∀ field : Value, ∃ written : String,
    textSelector? field (.known relation) (.text operand) =
        .ok (some (fieldSelector field "$regex" (.text written))) ∧
      Pattern.read? written.toList = some p ∧
      ∀ s : String, Selector.meets "$regex" (.text s) (.text written) = .ok (p.search s.toList)

/-- The pattern that is looked for is the one that is meant. -/
theorem looksFor_tree {relation : Relation} {operand : String} {p : Pattern}
    (h : relation.tree? operand.toList = some p) : relation.LooksFor operand p := by
  intro field
  obtain ⟨cs, hcs, hread⟩ :=
    Option.bind_eq_some_iff.1 ((read?_pattern relation operand.toList).trans h)
  refine ⟨String.ofList cs, ?_, by rwa [String.toList_ofList], fun s => ?_⟩
  · cases relation <;> cases hcs <;> rfl
  · have hmeets : Selector.meets "$regex" (.text s) (.text (String.ofList cs)) =
        Selector.matchesPattern (.text s) (.text (String.ofList cs)) := rfl
    rw [hmeets, Selector.matchesPattern, String.toList_ofList, hread]

/-- **Operands are literal.**  Whatever characters the operand is made of, the store can read the
    pattern that is looked for.  A text is found to contain the operand exactly if it does, and to
    start with it exactly if it does. -/
theorem operands_literal (operand : String) :
    (∃ p, contains.LooksFor operand p ∧
      ∀ s : String, p.search s.toList = true ↔ operand.toList <:+: s.toList) ∧
    (∃ p, startsWith.LooksFor operand p ∧
      ∀ s : String, p.search s.toList = true ↔ operand.toList <+: s.toList) ∧
    ∃ p, endsWith.LooksFor operand p :=
  ⟨⟨_, looksFor_tree rfl, fun _ => Pattern.search_contains⟩,
    ⟨_, looksFor_tree rfl, fun _ => Pattern.search_startsWith⟩, ⟨_, looksFor_tree rfl⟩⟩

/-- What is looked for in a field is searched for in the text that a document has there. -/
theorem LooksFor.test {relation : Relation} {operand : String} {p : Pattern}
    (h : relation.LooksFor operand p) {path : String} (hpath : Selector.isCombinator path = false) :
    ∃ selector, textSelector? (.text path) (.known relation) (.text operand) = .ok (some selector) ∧
      ∀ (doc : Value) (s : String), doc.at? path = some (.text s) →
        Selector.test selector doc = .ok (p.search s.toList) := by
  obtain ⟨written, hselector, -, hmeets⟩ := h (.text path)
  refine ⟨_, hselector, fun doc s hfound => ?_⟩
  rw [fieldSelector, Value.single, Selector.test_field hpath,
    Selector.testCondition_operator (by decide +kernel) (by decide) (by decide), hfound]
  exact hmeets s

/-- **What ends with an operand.**  A document is selected exactly if its text ends with the
    operand, or with the operand and one line end. -/
theorem endsWith_selects {path : String} (hpath : Selector.isCombinator path = false)
    (operand : String) :
    ∃ selector, textSelector? (.text path) (.known .endsWith) (.text operand) =
        .ok (some selector) ∧
      ∀ (doc : Value) (s : String), doc.at? path = some (.text s) →
        ∃ answer, Selector.test selector doc = .ok answer ∧
          (answer = true ↔ operand.toList <:+ s.toList ∨
            operand.toList ++ ['\n'] <:+ s.toList) := by
  have hlooks : endsWith.LooksFor operand _ := looksFor_tree rfl
  obtain ⟨selector, hselector, htest⟩ := hlooks.test hpath
  exact ⟨selector, hselector, fun doc s hfound => ⟨_, htest doc s hfound, Pattern.search_endsWith⟩⟩

/-- An address ends with its domain, of which the point is meant literally. -/
theorem endsWith_selects_domain :
    Selector.isCombinator "email" = false ∧
      ∃ selector, textSelector? (.text "email") (.known .endsWith) (.text "@x.io") =
          .ok (some selector) ∧
        Selector.test selector (.object [("email", .text "ada@x.io")]) = .ok true ∧
        Selector.test selector (.object [("email", .text "ada@x-io")]) = .ok false := by
  have hpath : Selector.isCombinator "email" = false := by decide
  obtain ⟨selector, hselector, htest⟩ := endsWith_selects hpath "@x.io"
  obtain ⟨found, hfound, hmeans⟩ := htest (.object [("email", .text "ada@x.io")]) "ada@x.io" rfl
  obtain ⟨missed, hmissed, hmeans'⟩ := htest (.object [("email", .text "ada@x-io")]) "ada@x-io" rfl
  obtain rfl : found = true := hmeans.2 (by decide +kernel)
  obtain rfl : missed = false := Bool.eq_false_iff.2 (mt hmeans'.1 (by decide +kernel))
  exact ⟨hpath, selector, hselector, hfound, hmissed⟩

/-- The obvious statement fails: a document is selected whose text does not end with the operand. -/
theorem endsWith_selects_before_line_end :
    ∃ selector, textSelector? (.text "name") (.known .endsWith) (.text "x") = .ok (some selector) ∧
      Selector.test selector (.object [("name", .text "x\n")]) = .ok true ∧
      ¬ "x".toList <:+ "x\n".toList := by
  refine ⟨_, rfl, rfl, by decide +kernel⟩

end Relation

end DocStore
