/-
  Addresses cut at their delimiters.

  An address is taken apart by cutting it at the first or the last occurrence of a character.  The
  lemmas say what a cut is by where the character stands: with the parts given, the cut gives them
  back, and of any text it is one of two cases.

  The authority of an address is what stands behind two slashes, up to a character that ends it.
  What is appended to an address, or dropped at its end, mostly does not change it
  (`takeAuthority_append_slashes`, `takeAuthority_append_mark`).
-/
import DocStore.Http.Address
import DocStore.Proofs.Text.Split
import Mathlib.Data.List.TakeWhile

namespace DocStore.Http

variable {p : Char → Bool} {sep : Char} {cs front behind : List Char}

/-! ## Breaks and cuts -/

/-- A text is broken where the first character is that satisfies the condition. -/
theorem breakAt_append (hfront : ∀ c ∈ front, p c = false) {c : Char} (hc : p c = true)
    (rest : List Char) : breakAt p (front ++ c :: rest) = (front, c :: rest) := by
  have hkeep : ∀ d ∈ front, (!p d) = true := fun d hd => by rw [hfront d hd]; rfl
  rw [breakAt, List.takeWhile_append_of_pos hkeep, List.dropWhile_append_of_pos hkeep,
    List.takeWhile_cons_of_neg (by simp [hc]), List.dropWhile_cons_of_neg (by simp [hc]),
    List.append_nil]

/-- A text without such a character is not broken. -/
theorem breakAt_of_none (h : ∀ c ∈ cs, p c = false) : breakAt p cs = (cs, []) := by
  have hkeep : ∀ d ∈ cs, (!p d) = true := fun d hd => by rw [h d hd]; rfl
  rw [breakAt, List.takeWhile_eq_self_iff.2 hkeep, List.dropWhile_eq_nil_iff.2 hkeep]

/-- A text without such a character, or what is before the first one and what is from it on. -/
theorem breakAt_cases (p : Char → Bool) (cs : List Char) :
    (∀ c ∈ cs, p c = false) ∨
      ∃ front c behind, (∀ d ∈ front, p d = false) ∧ p c = true ∧ cs = front ++ c :: behind := by
  induction cs with
  | nil => exact .inl (by simp)
  | cons c cs ih =>
    by_cases hc : p c = true
    · exact .inr ⟨[], c, cs, by simp, hc, rfl⟩
    · have hc : p c = false := by simpa using hc
      rcases ih with hnone | ⟨front, d, behind, hfront, hd, rfl⟩
      · exact .inl (List.forall_mem_cons.2 ⟨hc, hnone⟩)
      · exact .inr ⟨c :: front, d, behind, List.forall_mem_cons.2 ⟨hc, hfront⟩, hd, rfl⟩

/-- A text is cut where the separator is first. -/
theorem cut_append_cons (hfront : sep ∉ front) (behind : List Char) :
    cut sep (front ++ sep :: behind) = (front, some behind) := by
  have hbreak : breakAt (fun c => decide (c = sep)) (front ++ sep :: behind) =
      (front, sep :: behind) :=
    breakAt_append (fun c hc => decide_eq_false fun e : c = sep => hfront (e ▸ hc)) (by simp) behind
  rw [cut, hbreak]

/-- A text without the separator is not cut. -/
theorem cut_of_notMem (h : sep ∉ cs) : cut sep cs = (cs, none) := by
  have hbreak : breakAt (fun c => decide (c = sep)) cs = (cs, []) :=
    breakAt_of_none fun c hc => decide_eq_false fun e : c = sep => h (e ▸ hc)
  rw [cut, hbreak]

/-- A text without the separator, or what is before it and what is behind. -/
theorem cut_cases (sep : Char) (cs : List Char) :
    (sep ∉ cs ∧ cut sep cs = (cs, none)) ∨
      ∃ front behind, sep ∉ front ∧ cs = front ++ sep :: behind ∧
        cut sep cs = (front, some behind) := by
  by_cases h : sep ∈ cs
  · obtain ⟨front, behind, rfl, hfront⟩ := List.eq_append_cons_of_mem h
    exact .inr ⟨front, behind, hfront, rfl, cut_append_cons hfront behind⟩
  · exact .inl ⟨h, cut_of_notMem h⟩

/-- The separator is not in what stands before the first one. -/
theorem notMem_cut (sep : Char) (cs : List Char) : sep ∉ (cut sep cs).1 := by
  rcases cut_cases sep cs with ⟨h, hcut⟩ | ⟨front, behind, h, -, hcut⟩ <;> rwa [hcut]

/-- A text is cut where the separator is last. -/
theorem cutLast_append_cons (hbehind : sep ∉ behind) (front : List Char) :
    cutLast sep (front ++ sep :: behind) = (some front, behind) := by
  have hcut : cut sep (front ++ sep :: behind).reverse = (behind.reverse, some front.reverse) := by
    rw [List.reverse_append, List.reverse_cons, List.append_assoc, List.singleton_append,
      cut_append_cons (by simpa using hbehind)]
  rw [cutLast, hcut]
  simp

theorem cutLast_of_notMem (h : sep ∉ cs) : cutLast sep cs = (none, cs) := by
  rw [cutLast, cut_of_notMem (by simpa using h)]
  simp

theorem cutLast_cases (sep : Char) (cs : List Char) :
    (sep ∉ cs ∧ cutLast sep cs = (none, cs)) ∨
      ∃ front behind, sep ∉ behind ∧ cs = front ++ sep :: behind ∧
        cutLast sep cs = (some front, behind) := by
  by_cases h : sep ∈ cs
  · obtain ⟨behind, front, hcs, hbehind⟩ := List.eq_append_cons_of_mem (List.mem_reverse.2 h)
    have hcs : cs = front.reverse ++ sep :: behind.reverse := by
      rw [← List.reverse_reverse cs, hcs]
      simp
    subst hcs
    have hbehind : sep ∉ behind.reverse := by simpa using hbehind
    exact .inr ⟨front.reverse, behind.reverse, hbehind, rfl, cutLast_append_cons hbehind _⟩
  · exact .inl ⟨h, cutLast_of_notMem h⟩

/-! ## The authority of an address -/

/-- Whether a character ends an authority. -/
def endsAuthority (c : Char) : Bool := c = '/' || c = '?' || c = '#'

/-- What stands behind two slashes is the authority, up to the character that ends it. -/
theorem takeAuthority_slashes (cs : List Char) :
    takeAuthority ('/' :: '/' :: cs) = breakAt endsAuthority cs := rfl

/-- A text that does not begin with two slashes has no authority. -/
theorem takeAuthority_of_take (h : cs.take 2 ≠ ['/', '/']) : takeAuthority cs = ([], cs) := by
  unfold takeAuthority
  split
  · exact absurd rfl h
  · rfl

theorem takeAuthority_cases (cs : List Char) :
    (∃ rest, cs = '/' :: '/' :: rest ∧ takeAuthority cs = breakAt endsAuthority rest) ∨
      (cs.take 2 ≠ ['/', '/'] ∧ takeAuthority cs = ([], cs)) := by
  by_cases h : cs.take 2 = ['/', '/']
  · obtain ⟨rest, rfl⟩ : ∃ rest, cs = '/' :: '/' :: rest :=
      ⟨cs.drop 2, by rw [← List.take_append_drop 2 cs, h]; rfl⟩
    exact .inl ⟨rest, rfl, rfl⟩
  · exact .inr ⟨h, takeAuthority_of_take h⟩

/-- An authority and what follows it are taken apart again. -/
theorem takeAuthority_append {authority rest : List Char}
    (h : ∀ c ∈ authority, endsAuthority c = false)
    (hrest : ∀ c ∈ rest.head?, endsAuthority c = true) :
    takeAuthority ('/' :: '/' :: (authority ++ rest)) = (authority, rest) := by
  rw [takeAuthority_slashes]
  cases rest with
  | nil => rw [List.append_nil, breakAt_of_none h]
  | cons c rest => exact breakAt_append h (hrest c rfl) rest

/-- No character of an authority ends it. -/
theorem endsAuthority_of_mem {c : Char} (h : c ∈ (takeAuthority cs).1) :
    endsAuthority c = false := by
  rcases takeAuthority_cases cs with ⟨rest, -, hauthority⟩ | ⟨-, hauthority⟩
  · rw [hauthority, breakAt] at h
    simpa using List.mem_takeWhile_imp h
  · rw [hauthority] at h
    cases h

/-- The authority does not change when something is appended that would end one, unless that is an
    authority itself, by itself or with a slash in front. -/
theorem takeAuthority_append_fst {rest : List Char}
    (hrest : ∀ c ∈ rest.head?, endsAuthority c = true) (hnone : (takeAuthority rest).1 = [])
    (hslash : (takeAuthority ('/' :: rest)).1 = []) (cs : List Char) :
    (takeAuthority (cs ++ rest)).1 = (takeAuthority cs).1 := by
  rcases takeAuthority_cases cs with ⟨inner, rfl, -⟩ | ⟨htake, hcs⟩
  · rw [List.cons_append, List.cons_append, takeAuthority_slashes, takeAuthority_slashes]
    rcases breakAt_cases endsAuthority inner with h | ⟨front, c, behind, hfront, hc, rfl⟩
    · cases rest with
      | nil => rw [List.append_nil]
      | cons c rest => rw [breakAt_append h (hrest c rfl), breakAt_of_none h]
    · rw [List.append_assoc, List.cons_append, breakAt_append hfront hc, breakAt_append hfront hc]
  · rw [hcs]
    match cs, htake with
    | [], _ => exact hnone
    | [c], _ =>
      by_cases hc : c = '/'
      · exact hc ▸ hslash
      · rw [takeAuthority_of_take (by simp [hc])]
    | c :: d :: more, htake => rw [takeAuthority_of_take (by simpa using htake)]

/-- Slashes at the end do not change the authority. -/
theorem takeAuthority_append_slashes (cs : List Char) (n : Nat) :
    (takeAuthority (cs ++ List.replicate n '/')).1 = (takeAuthority cs).1 := by
  have hnone (m : Nat) : (takeAuthority (List.replicate m '/')).1 = [] := by
    match m with
    | 0 | 1 | 2 => rfl
    | m + 3 => exact congrArg Prod.fst (breakAt_append (List.forall_mem_nil _) (by decide) _)
  refine takeAuthority_append_fst (fun c hc => ?_) (hnone n) (hnone (n + 1)) cs
  rw [List.eq_of_mem_replicate (List.mem_of_mem_head? hc)]
  rfl

/-- Nor does a query or a fragment. -/
theorem takeAuthority_append_mark {c : Char} (h : c = '?' ∨ c = '#') (cs rest : List Char) :
    (takeAuthority (cs ++ c :: rest)).1 = (takeAuthority cs).1 := by
  rcases h with rfl | rfl <;> exact takeAuthority_append_fst (by simp [endsAuthority]) rfl rfl cs

end DocStore.Http
