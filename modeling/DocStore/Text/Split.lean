/-
  Texts cut at a character.

  Every occurrence of the character cuts, so `n` occurrences leave `n + 1` parts, of which any may
  be empty.
-/

namespace DocStore.Text

/-- The parts of a text between the occurrences of a character; always at least one. -/
def splitAt (sep : Char) : List Char → List (List Char)
  | [] => [[]]
  | c :: rest =>
    match splitAt sep rest with
    | [] => [[]]
    | part :: more => if c = sep then [] :: part :: more else (c :: part) :: more

/-- A text without the separator is a single part. -/
theorem splitAt_of_notMem {sep : Char} {cs : List Char} (h : sep ∉ cs) : splitAt sep cs = [cs] := by
  induction cs with
  | nil => rfl
  | cons c rest ih =>
    have hr : sep ∉ rest := fun hm => h (List.mem_cons_of_mem _ hm)
    have hc : c ≠ sep := fun e => h (e ▸ List.mem_cons_self)
    simp [splitAt, ih hr, hc]

example : splitAt '.' ['a', '.', '.'] = [['a'], [], []] := by decide

end DocStore.Text
