/-
  Sorting by runs.

  A row is taken for a row of runs: the run it begins with, filled up by insertion to a least
  length, then the next one, and so on.  Runs are merged in pairs.  How deep a boundary between two
  runs lies in the tree of halves of the row (`depth`) decides which pair is merged next, so that
  the runs merged have about the same length.

  A merge leaves what is in place already at both ends and goes forward from the front, or backward
  from the back when the second run is the shorter one.  It takes one element after the other until
  one run has won so many times in a row that it pays to look ahead: then it finds by doubling and
  halving (`gallop`) how many elements of each run go before the next of the other.

  Under a total preorder the result is that of `insertionSort`.  This sort is for rows with values
  that do not compare, where the result depends on which elements are compared, and rows below 64
  elements give the same as `insertionSort` even then.

  Whatever the comparison says, nothing is lost and nothing is added: `runSort_perm`.
-/
import DocStore.Order.Insertion

namespace DocStore

variable {α : Type}

/-! ## Looking ahead -/

/-- Doubles a distance as long as the element there satisfies `p`: the last distance at which one
    did, and the first beyond. -/
def stride (p : α → Bool) (row : List α) : Nat → Nat → Nat → Nat × Nat
  | 0, last, next => (last, next)
  | steps + 1, last, next =>
    if (row[next]?).any p then stride p row steps next (2 * next + 1)
    else (last, min next row.length)

/-- Halves the window from `low` to `high` until it is empty.  Going backward, the middle of an even
    window is the lower of the two. -/
def narrowDown (backward : Bool) (p : α → Bool) (row : List α) : Nat → Nat → Nat → Nat
  | 0, low, _ => low
  | steps + 1, low, high =>
    if low < high then
      let middle := low + (if backward then (high - low - 1) / 2 else (high - low) / 2)
      if (row[middle]?).any p then narrowDown backward p row steps (middle + 1) high
      else narrowDown backward p row steps low middle
    else low

/-- The number of elements at the front of a row that satisfy `p`, when those that do all come
    first. -/
def gallop (backward : Bool) (p : α → Bool) (row : List α) : Nat :=
  if (row[0]?).any p then
    let window := stride p row row.length 0 1
    narrowDown backward p row row.length (window.1 + 1) window.2
  else 0

/-! ## Merging two runs -/

/-- A merge under way: what is left of both runs, and what has been taken, the last element first.
    A backward merge has its runs turned round. -/
structure Merge (α : Type) where
  first : List α
  second : List α
  taken : List α

namespace Merge

/-- Takes elements off the first run. -/
def takeFirst (n : Nat) (m : Merge α) : Merge α :=
  ⟨m.first.drop n, m.second, (m.first.take n).reverse ++ m.taken⟩

/-- Takes elements off the second run. -/
def takeSecond (n : Nat) (m : Merge α) : Merge α :=
  ⟨m.first, m.second.drop n, (m.second.take n).reverse ++ m.taken⟩

/-- Whether the rest needs no comparison: the run that was begun with is used up, or the other has a
    single element left, which comes last. -/
def isOver (backward : Bool) (m : Merge α) : Bool :=
  if backward then m.first.isEmpty || m.second.length ≤ 1
  else m.second.isEmpty || m.first.length ≤ 1

/-- All elements in the order of the merge, once it is over. -/
def finish (backward : Bool) (m : Merge α) : List α :=
  m.taken.reverse ++ (if backward then m.first ++ m.second else m.second ++ m.first)

/-- Whether an element of the second run comes before one of the first; of even elements the first
    run's comes first, which going backward means last. -/
def secondWins (less : α → α → Bool) (backward : Bool) (x y : α) : Bool := less y x != backward

/-- Takes one element after the other until one run has won `limit` times in a row. -/
def alternate (less : α → α → Bool) (backward : Bool) (limit : Nat) :
    Nat → Nat → Nat → Merge α → Merge α
  | 0, _, _, m => m
  | steps + 1, firstWon, secondWon, m =>
    match m.first, m.second with
    | x :: _, y :: _ =>
      if secondWins less backward x y then
        let next := m.takeSecond 1
        if next.isOver backward || limit ≤ secondWon + 1 then next
        else alternate less backward limit steps 0 (secondWon + 1) next
      else
        let next := m.takeFirst 1
        if next.isOver backward || limit ≤ firstWon + 1 then next
        else alternate less backward limit steps (firstWon + 1) 0 next
    | _, _ => m

/-- How many elements of the first run come before the next of the second. -/
def leadOfFirst (less : α → α → Bool) (backward : Bool) (m : Merge α) : Nat :=
  match m.second with
  | y :: _ => gallop backward (fun x => !secondWins less backward x y) m.first
  | [] => 0

/-- How many elements of the second run come before the next of the first. -/
def leadOfSecond (less : α → α → Bool) (backward : Bool) (m : Merge α) : Nat :=
  match m.first with
  | x :: _ => gallop backward (fun y => secondWins less backward x y) m.second
  | [] => 0

/-- The lead from which on looking ahead pays. -/
def worthwhile : Nat := 7

/-- Takes leads of both runs in turn as long as that pays.  The number is how often a run has to win
    before the next time; it falls with every round and rises at the end. -/
def leap (less : α → α → Bool) (backward : Bool) : Nat → Nat → Merge α → Merge α × Nat
  | 0, limit, m => (m, limit)
  | steps + 1, limit, m =>
    let limit := if 1 < limit then limit - 1 else limit
    let firstLead := leadOfFirst less backward m
    let m := m.takeFirst firstLead
    if m.isOver backward then (m, limit)
    else
      let m := m.takeSecond 1
      if m.isOver backward then (m, limit)
      else
        let secondLead := leadOfSecond less backward m
        let m := m.takeSecond secondLead
        if m.isOver backward then (m, limit)
        else
          let m := m.takeFirst 1
          if m.isOver backward then (m, limit)
          else if worthwhile ≤ firstLead || worthwhile ≤ secondLead then
            leap less backward steps limit m
          else (m, limit + 1)

/-- Alternates and leaps until the merge is over. -/
def run (less : α → α → Bool) (backward : Bool) : Nat → Nat → Merge α → Merge α × Nat
  | 0, limit, m => (m, limit)
  | steps + 1, limit, m =>
    if m.isOver backward then (m, limit)
    else
      let m := alternate less backward limit (m.first.length + m.second.length) 0 0 m
      if m.isOver backward then (m, limit)
      else
        let (m, limit) := leap less backward (m.first.length + m.second.length) (limit + 1) m
        run less backward steps limit m

end Merge

/-- Merges two runs of which neither is in place, going forward. -/
def mergeForward (less : α → α → Bool) (limit : Nat) (first second : List α) : List α × Nat :=
  let start : Merge α := ⟨first, second, []⟩
  let (m, limit) :=
    Merge.run less false (first.length + second.length) limit (start.takeSecond 1)
  (m.finish false, limit)

/-- Merges two runs of which neither is in place, going backward. -/
def mergeBackward (less : α → α → Bool) (limit : Nat) (first second : List α) : List α × Nat :=
  let start : Merge α := ⟨first.reverse, second.reverse, []⟩
  let (m, limit) :=
    Merge.run less true (first.length + second.length) limit (start.takeFirst 1)
  ((m.finish true).reverse, limit)

/-- Merges two runs; the number is the limit for looking ahead, which lasts from merge to merge. -/
def mergeRuns (less : α → α → Bool) (limit : Nat) (first second : List α) : List α × Nat :=
  let settled := Merge.leadOfFirst less false ⟨first, second, []⟩
  let moving := first.drop settled
  let ending := Merge.leadOfSecond less true ⟨moving.reverse, second.reverse, []⟩
  let entering := second.take (second.length - ending)
  if moving.isEmpty || entering.isEmpty then (first ++ second, limit)
  else
    let (merged, limit) :=
      if moving.length ≤ entering.length then mergeForward less limit moving entering
      else mergeBackward less limit moving entering
    (first.take settled ++ merged ++ second.drop (second.length - ending), limit)

/-! ## Which runs to merge -/

/-- The least length of a run in a row of the given length, for rows that are not too long. -/
def leastRun : Nat → Nat → Nat → Nat
  | 0, n, odd => n + odd
  | steps + 1, n, odd => if 64 ≤ n then leastRun steps (n / 2) (max odd (n % 2)) else n + odd

/-- The number of halvings of a row of length `size` after which the points `low` and `high`,
    counted in halves, no longer lie in one part. -/
def depth (size : Nat) : Nat → Nat → Nat → Nat → Nat
  | 0, found, _, _ => found
  | steps + 1, found, low, high =>
    if size ≤ low then depth size steps (found + 1) (2 * (low - size)) (2 * (high - size))
    else if size ≤ high then found + 1
    else depth size steps (found + 1) (2 * low) (2 * high)

/-- A run that waits to be merged, where it begins, and how deep its end lies. -/
structure Pending (α : Type) where
  start : Nat
  elements : List α
  depth : Nat

/-- Merges the uppermost runs as long as the boundary below them lies deeper than `level`. -/
def mergeDeeper (less : α → α → Bool) (level : Nat) :
    Nat → List (Pending α) → Nat → List (Pending α) × Nat
  | steps + 1, top :: below :: rest, limit =>
    if level < below.depth then
      let (merged, limit) := mergeRuns less limit below.elements top.elements
      mergeDeeper less level steps (⟨below.start, merged, below.depth⟩ :: rest) limit
    else (top :: below :: rest, limit)
  | _, runs, limit => (runs, limit)

/-- Notes how deep the end of the uppermost run lies. -/
def noteDepth (level : Nat) : List (Pending α) → List (Pending α)
  | [] => []
  | top :: rest => ⟨top.start, top.elements, level⟩ :: rest

/-- Makes the waiting runs ready for a run of `length` elements that follows them. -/
def makeRoom (less : α → α → Bool) (size length : Nat) (runs : List (Pending α)) (limit : Nat) :
    List (Pending α) × Nat :=
  match runs with
  | [] => ([], limit)
  | top :: _ =>
    let low := 2 * top.start + top.elements.length
    let level := depth size (size + 1) 0 low (low + top.elements.length + length)
    let (runs, limit) := mergeDeeper less level runs.length runs limit
    (noteDepth level runs, limit)

/-- The run that a row begins with, filled up by insertion to `least` elements, and the rest. -/
def nextRun (less : α → α → Bool) (least : Nat) (row : List α) : List α × List α :=
  let (run, rest) := firstRun less row
  let missing := least - run.length
  ((rest.take missing).foldl (fun sorted x => insertHalving less x sorted.length sorted) run,
    rest.drop missing)

/-- The waiting runs after all runs of a row, which begins at position `start`. -/
def collectRuns (less : α → α → Bool) (size least : Nat) :
    Nat → Nat → List α → List (Pending α) → Nat → List (Pending α) × Nat
  | steps + 1, start, x :: row, runs, limit =>
    let (run, rest) := nextRun less least (x :: row)
    let (runs, limit) := makeRoom less size run.length runs limit
    collectRuns less size least steps (start + run.length) rest (⟨start, run, 0⟩ :: runs) limit
  | _, start, row, runs, limit => (if row.isEmpty then runs else ⟨start, row, 0⟩ :: runs, limit)

/-- Merges all waiting runs.  The last two go first, unless the one before them is shorter than the
    last. -/
def mergeAll (less : α → α → Bool) : Nat → List (Pending α) → Nat → List α
  | steps + 1, top :: below :: rest, limit =>
    match rest with
    | third :: others =>
      if third.elements.length < top.elements.length then
        let (merged, limit) := mergeRuns less limit third.elements below.elements
        mergeAll less steps (top :: ⟨third.start, merged, third.depth⟩ :: others) limit
      else
        let (merged, limit) := mergeRuns less limit below.elements top.elements
        mergeAll less steps (⟨below.start, merged, below.depth⟩ :: third :: others) limit
    | [] => (mergeRuns less limit below.elements top.elements).1
  | _, runs, _ => (runs.map (·.elements)).reverse.flatten

/-- A row sorted by runs. -/
def runSort (less : α → α → Bool) (row : List α) : List α :=
  let (runs, limit) :=
    collectRuns less row.length (leastRun row.length row.length 0) row.length 0 row []
      Merge.worthwhile
  mergeAll less runs.length runs limit

/-! ## Nothing is lost -/

namespace Merge

/-- All elements of a merge under way. -/
def elements (m : Merge α) : List α := m.taken ++ (m.first ++ m.second)

theorem takeFirst_perm (n : Nat) (m : Merge α) : (m.takeFirst n).elements.Perm m.elements := by
  have moved : ((m.first.take n).reverse ++ m.taken).Perm (m.taken ++ m.first.take n) :=
    ((List.reverse_perm _).append_right _).trans List.perm_append_comm
  refine (moved.append_right _).trans ?_
  simp only [takeFirst, elements, List.append_assoc]
  rw [← List.append_assoc (m.first.take n), List.take_append_drop]

theorem takeSecond_perm (n : Nat) (m : Merge α) : (m.takeSecond n).elements.Perm m.elements := by
  have moved : ((m.second.take n).reverse ++ m.taken).Perm (m.taken ++ m.second.take n) :=
    ((List.reverse_perm _).append_right _).trans List.perm_append_comm
  refine (moved.append_right _).trans ?_
  simp only [takeSecond, elements, List.append_assoc]
  refine List.Perm.append_left _ ?_
  refine (List.perm_append_comm_assoc ..).trans ?_
  rw [List.take_append_drop]

theorem finish_perm (backward : Bool) (m : Merge α) :
    (m.finish backward).Perm m.elements := by
  refine (List.reverse_perm _).append ?_
  split
  · exact .refl _
  · exact List.perm_append_comm

theorem alternate_perm (less : α → α → Bool) (backward : Bool) (limit steps : Nat)
    (firstWon secondWon : Nat) (m : Merge α) :
    (alternate less backward limit steps firstWon secondWon m).elements.Perm m.elements := by
  induction steps generalizing firstWon secondWon m with
  | zero => exact .refl _
  | succ steps ih =>
    unfold alternate
    split
    · dsimp only
      split
      · split
        · exact takeSecond_perm 1 m
        · exact (ih _ _ _).trans (takeSecond_perm 1 m)
      · split
        · exact takeFirst_perm 1 m
        · exact (ih _ _ _).trans (takeFirst_perm 1 m)
    · exact .refl _

theorem leap_perm (less : α → α → Bool) (backward : Bool) (steps limit : Nat) (m : Merge α) :
    (leap less backward steps limit m).1.elements.Perm m.elements := by
  induction steps generalizing limit m with
  | zero => exact .refl _
  | succ steps ih =>
    unfold leap
    dsimp only
    generalize leadOfFirst less backward m = firstLead
    have first := takeFirst_perm firstLead m
    generalize m.takeFirst firstLead = m1 at first ⊢
    split
    · exact first
    · have second := (takeSecond_perm 1 m1).trans first
      generalize m1.takeSecond 1 = m2 at second ⊢
      split
      · exact second
      · generalize leadOfSecond less backward m2 = secondLead
        have third := (takeSecond_perm secondLead m2).trans second
        generalize m2.takeSecond secondLead = m3 at third ⊢
        split
        · exact third
        · have fourth := (takeFirst_perm 1 m3).trans third
          split
          · exact fourth
          · split
            · exact (ih _ _).trans fourth
            · exact fourth

theorem run_perm (less : α → α → Bool) (backward : Bool) (steps limit : Nat) (m : Merge α) :
    (run less backward steps limit m).1.elements.Perm m.elements := by
  induction steps generalizing limit m with
  | zero => exact .refl _
  | succ steps ih =>
    unfold run
    split
    · exact .refl _
    · dsimp only
      have passed := alternate_perm less backward limit (m.first.length + m.second.length) 0 0 m
      generalize alternate less backward limit (m.first.length + m.second.length) 0 0 m = m1
        at passed ⊢
      split
      · exact passed
      · exact (ih _ _).trans ((leap_perm ..).trans passed)

end Merge

theorem mergeForward_perm (less : α → α → Bool) (limit : Nat) (first second : List α) :
    (mergeForward less limit first second).1.Perm (first ++ second) :=
  (Merge.finish_perm ..).trans ((Merge.run_perm ..).trans (Merge.takeSecond_perm ..))

theorem mergeBackward_perm (less : α → α → Bool) (limit : Nat) (first second : List α) :
    (mergeBackward less limit first second).1.Perm (first ++ second) := by
  refine (List.reverse_perm _).trans ?_
  refine (Merge.finish_perm ..).trans ((Merge.run_perm ..).trans ?_)
  exact (Merge.takeFirst_perm ..).trans
    ((List.reverse_perm first).append (List.reverse_perm second))

theorem mergeRuns_perm (less : α → α → Bool) (limit : Nat) (first second : List α) :
    (mergeRuns less limit first second).1.Perm (first ++ second) := by
  unfold mergeRuns
  dsimp only
  generalize Merge.leadOfFirst less false ⟨first, second, []⟩ = settled
  generalize second.length - Merge.leadOfSecond less true _ = entered
  have whole : first ++ second =
      first.take settled ++ (first.drop settled ++ second.take entered) ++ second.drop entered := by
    simp only [List.append_assoc, List.take_append_drop]
    rw [← List.append_assoc, List.take_append_drop]
  split
  · exact .refl _
  · rw [whole]
    refine List.Perm.append_right _ (List.Perm.append_left _ ?_)
    split
    · exact mergeForward_perm ..
    · exact mergeBackward_perm ..

/-- The elements of the waiting runs, the uppermost first. -/
def held (runs : List (Pending α)) : List α := runs.flatMap (·.elements)

theorem mergeDeeper_perm (less : α → α → Bool) (level steps : Nat) (runs : List (Pending α))
    (limit : Nat) : (held (mergeDeeper less level steps runs limit).1).Perm (held runs) := by
  induction steps generalizing runs limit with
  | zero => simp [mergeDeeper]
  | succ steps ih =>
    match runs with
    | [] => simp [mergeDeeper]
    | [_] => simp [mergeDeeper]
    | top :: below :: rest =>
      unfold mergeDeeper
      split
      · refine (ih _ _).trans ?_
        simp only [held, List.flatMap_cons, ← List.append_assoc]
        exact ((mergeRuns_perm ..).trans List.perm_append_comm).append_right _
      · exact .refl _

theorem held_noteDepth (level : Nat) (runs : List (Pending α)) :
    held (noteDepth level runs) = held runs := by
  cases runs <;> rfl

theorem makeRoom_perm (less : α → α → Bool) (size length : Nat) (runs : List (Pending α))
    (limit : Nat) : (held (makeRoom less size length runs limit).1).Perm (held runs) := by
  unfold makeRoom
  split
  · exact .refl _
  · simp only [held_noteDepth]
    exact mergeDeeper_perm ..

theorem nextRun_perm (less : α → α → Bool) (least : Nat) (row : List α) :
    ((nextRun less least row).1 ++ (nextRun less least row).2).Perm row := by
  unfold nextRun
  dsimp only
  refine ((foldl_insertHalving_perm ..).append_right _).trans ?_
  rw [List.append_assoc, List.take_append_drop]
  exact firstRun_perm less row

theorem collectRuns_perm (less : α → α → Bool) (size least steps start : Nat) (row : List α)
    (runs : List (Pending α)) (limit : Nat) :
    (held (collectRuns less size least steps start row runs limit).1).Perm (row ++ held runs) := by
  induction steps generalizing start row runs limit with
  | zero => cases row <;> simp [collectRuns, held]
  | succ steps ih =>
    match row with
    | [] => simp [collectRuns]
    | x :: row =>
      unfold collectRuns
      dsimp only
      refine (ih ..).trans ?_
      refine List.Perm.trans ?_ ((nextRun_perm less least (x :: row)).append_right _)
      simp only [held, List.flatMap_cons]
      refine (List.perm_append_comm_assoc ..).trans ?_
      rw [List.append_assoc]
      exact List.Perm.append_left _ (List.Perm.append_left _ (makeRoom_perm ..))

theorem flatten_reverse_perm (runs : List (Pending α)) :
    (runs.map (·.elements)).reverse.flatten.Perm (held runs) := by
  rw [held, List.flatMap_def]
  exact (List.reverse_perm _).flatten

theorem mergeAll_perm (less : α → α → Bool) (steps : Nat) (runs : List (Pending α))
    (limit : Nat) : (mergeAll less steps runs limit).Perm (held runs) := by
  induction steps generalizing runs limit with
  | zero => exact flatten_reverse_perm runs
  | succ steps ih =>
    match runs with
    | [] => exact flatten_reverse_perm []
    | [run] => exact flatten_reverse_perm [run]
    | [top, below] =>
      simp only [mergeAll, held, List.flatMap_cons, List.flatMap_nil, List.append_nil]
      exact (mergeRuns_perm ..).trans List.perm_append_comm
    | top :: below :: third :: others =>
      unfold mergeAll
      dsimp only
      split
      · refine (ih _ _).trans ?_
        simp only [held, List.flatMap_cons]
        refine List.Perm.append_left _ ?_
        rw [← List.append_assoc below.elements]
        exact ((mergeRuns_perm ..).trans List.perm_append_comm).append_right _
      · refine (ih _ _).trans ?_
        simp only [held, List.flatMap_cons]
        rw [← List.append_assoc top.elements]
        exact ((mergeRuns_perm ..).trans List.perm_append_comm).append_right _

/-- Sorting by runs gives back the same elements. -/
theorem runSort_perm (less : α → α → Bool) (row : List α) : (runSort less row).Perm row := by
  refine (mergeAll_perm ..).trans ?_
  refine (collectRuns_perm ..).trans ?_
  simp [held]

example : runSort (fun a b => a < b) [3, 1, 2, 5, 4] = [1, 2, 3, 4, 5] := by decide +kernel

end DocStore
