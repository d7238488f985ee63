/-
  Sorting by insertion.

  The run that a row begins with is kept: either the elements that do not go down, or, turned round,
  those that go strictly down.  Each element after it is put into the sorted part by halving: the
  middle of the window decides which half the search goes on in, and an element that is even with
  the middle one goes behind it.

  Under a total preorder the result is the one sorted row in which even elements keep their order.
  The search is spelled out because the order here need not be one: rows that hold values which do
  not compare can be even with two rows that are not even with each other, and then the result
  depends on which elements were compared.

  Whatever the comparison says, nothing is lost and nothing is added: `insertionSort_perm`.
-/

namespace DocStore

variable {α : Type}

/-- Splits a row after the longest beginning in which `follows` holds from each element to the next;
the first element is given apart and belongs to neither part. -/
def splitChain (follows : α → α → Bool) : α → List α → List α × List α
  | _, [] => ([], [])
  | a, b :: rest =>
    if follows a b then
      let parts := splitChain follows b rest
      (b :: parts.1, parts.2)
    else ([], b :: rest)

/-- The sorted run that a row begins with, and what comes after it. -/
def firstRun (less : α → α → Bool) : List α → List α × List α
  | [] => ([], [])
  | [a] => ([a], [])
  | a :: b :: rest =>
    if less b a then
      let parts := splitChain (fun x y => less y x) a (b :: rest)
      ((a :: parts.1).reverse, parts.2)
    else
      let parts := splitChain (fun x y => !less y x) a (b :: rest)
      (a :: parts.1, parts.2)

/-- Puts an element into a row by halving it at most `steps` times; the length of the row is always
enough. -/
def insertHalving (less : α → α → Bool) (x : α) : Nat → List α → List α
  | 0, row => x :: row
  | steps + 1, row =>
    match row.drop (row.length / 2) with
    | [] => [x]
    | middle :: upper =>
      let lower := row.take (row.length / 2)
      if less x middle then insertHalving less x steps lower ++ middle :: upper
      else lower ++ middle :: insertHalving less x steps upper

/-- A row sorted by insertion. -/
def insertionSort (less : α → α → Bool) (row : List α) : List α :=
  let parts := firstRun less row
  parts.2.foldl (fun sorted x => insertHalving less x sorted.length sorted) parts.1

/-! ## Nothing is lost -/

theorem splitChain_append (follows : α → α → Bool) (a : α) (row : List α) :
    (splitChain follows a row).1 ++ (splitChain follows a row).2 = row := by
  induction row generalizing a with
  | nil => rfl
  | cons b rest ih =>
    by_cases h : follows a b
    · simp [splitChain, h, ih b]
    · simp [splitChain, h]

theorem firstRun_perm (less : α → α → Bool) (row : List α) :
    ((firstRun less row).1 ++ (firstRun less row).2).Perm row := by
  match row with
  | [] => exact .nil
  | [_] => exact .refl _
  | a :: b :: rest =>
    by_cases h : less b a
    · have split := splitChain_append (fun x y => less y x) a (b :: rest)
      simp only [firstRun, h, if_true]
      refine (List.Perm.append_right _ (List.reverse_perm _)).trans ?_
      rw [List.cons_append, split]
    · have split := splitChain_append (fun x y => !less y x) a (b :: rest)
      simp only [firstRun, h]
      rw [if_neg (by simp), List.cons_append, split]

theorem insertHalving_perm (less : α → α → Bool) (x : α) (steps : Nat) (row : List α) :
    (insertHalving less x steps row).Perm (x :: row) := by
  induction steps generalizing row with
  | zero => exact .refl _
  | succ steps ih =>
    have halves := List.take_append_drop (row.length / 2) row
    cases rest : row.drop (row.length / 2) with
    | nil =>
      have empty : row = [] := by
        have := congrArg List.length rest
        simp at this
        exact List.length_eq_zero_iff.1 (by omega)
      simp [insertHalving, empty]
    | cons middle upper =>
      rw [rest] at halves
      simp only [insertHalving, rest]
      split
      · exact ((ih _).append_right _).trans (by rw [List.cons_append, halves])
      · refine (((ih upper).cons middle).append_left _).trans ?_
        refine (List.Perm.append_left _ (List.Perm.swap x middle upper)).trans ?_
        exact List.perm_middle.trans (by rw [halves])

theorem foldl_insertHalving_perm (less : α → α → Bool) (tail sorted : List α) :
    (tail.foldl (fun sorted x => insertHalving less x sorted.length sorted) sorted).Perm
      (sorted ++ tail) := by
  induction tail generalizing sorted with
  | nil => simp
  | cons x rest ih =>
    refine (ih _).trans ?_
    refine ((insertHalving_perm less x sorted.length sorted).append_right rest).trans ?_
    exact List.perm_middle.symm

/-- Sorting gives back the same elements. -/
theorem insertionSort_perm (less : α → α → Bool) (row : List α) :
    (insertionSort less row).Perm row :=
  (foldl_insertHalving_perm less _ _).trans (firstRun_perm less row)

example : insertionSort (fun a b => a < b) [3, 1, 2, 5, 4] = [1, 2, 3, 4, 5] := by decide
example : insertionSort (fun a b => a.1 < b.1) [(2, 0), (1, 1), (2, 2), (1, 3)] =
    [(1, 1), (1, 3), (2, 0), (2, 2)] := by decide

end DocStore
