/-
  What the parts of a text are.

  Cutting a text at every occurrence of a character is splitting its list of characters there
  (`splitAt_eq_splitOn`), so the library's laws of splitting hold of it: where two texts are put
  together with the separator between them, their parts stand one behind the other
  (`splitAt_append`).  Every character is a separator or in one of the parts (`mem_splitAt`).
-/
import DocStore.Text.Split

namespace DocStore.Text

variable {sep : Char} {cs front : List Char}

theorem splitAt_eq_splitOn (sep : Char) (cs : List Char) : splitAt sep cs = cs.splitOn sep := by
  induction cs with
  | nil => rfl
  | cons c rest ih =>
    rw [splitAt, ih, List.splitOn_cons_eq_if_modifyHead]
    cases hrest : rest.splitOn sep with
    | nil => exact absurd hrest (List.splitOn_ne_nil sep rest)
    | cons part more => simp

/-- There is always a part. -/
theorem exists_splitAt (sep : Char) (cs : List Char) : ∃ part more, splitAt sep cs = part :: more :=
  List.exists_cons_of_ne_nil (splitAt_eq_splitOn sep cs ▸ List.splitOn_ne_nil sep cs)

/-- The parts of two texts with the separator between them are those of the one and then those of
    the other. -/
theorem splitAt_append (front behind : List Char) :
    splitAt sep (front ++ sep :: behind) = splitAt sep front ++ splitAt sep behind := by
  simp only [splitAt_eq_splitOn, List.splitOn_append_cons_self]

/-- A text is cut where the separator is first, and then the rest is. -/
theorem splitAt_append_cons (hfront : sep ∉ front) (rest : List Char) :
    splitAt sep (front ++ sep :: rest) = front :: splitAt sep rest := by
  rw [splitAt_append, splitAt_of_notMem hfront, List.singleton_append]

/-- Replacing characters keeps the parts, if it neither makes nor unmakes a separator. -/
theorem splitAt_map {f : Char → Char} (hf : ∀ c, f c = sep ↔ c = sep) (cs : List Char) :
    splitAt sep (cs.map f) = (splitAt sep cs).map (List.map f) := by
  induction cs with
  | nil => rfl
  | cons c cs ih =>
    obtain ⟨part, more, hcs⟩ := exists_splitAt sep cs
    rw [List.map_cons, splitAt, splitAt, ih, hcs]
    by_cases hc : c = sep <;> simp [hc, hf]

/-- Every character of a text is a separator or in one of the parts. -/
theorem mem_splitAt (sep : Char) {c : Char} (h : c ∈ cs) :
    c = sep ∨ ∃ part ∈ splitAt sep cs, c ∈ part := by
  induction cs with
  | nil => cases h
  | cons d cs ih =>
    obtain ⟨part, more, hcs⟩ := exists_splitAt sep cs
    rw [splitAt, hcs]
    rw [hcs] at ih
    by_cases hd : d = sep
    · rcases List.mem_cons.1 h with rfl | h
      · exact .inl hd
      · simpa [hd] using ih h
    · rcases List.mem_cons.1 h with rfl | h
      · exact .inr (by simp [hd])
      · refine (ih h).imp_right fun hpart => ?_
        obtain ⟨other, hother, hc⟩ := hpart
        rcases List.mem_cons.1 hother with rfl | hother
        · exact ⟨d :: other, by simp [hd], List.mem_cons_of_mem _ hc⟩
        · exact ⟨other, by simp [hd, hother], hc⟩

end DocStore.Text
