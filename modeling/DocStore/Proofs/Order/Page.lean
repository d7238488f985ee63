/-
  Pages of ordered rows.

  1. **Windows** — for bounds that do not count from the end, a page is what is left of a row after
     so many elements, up to so many (`window`, `pageOf_bound`).  Callers and stores state their
     bounds in different ways, a limit or the position behind the last element, and both come to a
     window.

  2. **Windows in parts** — what a scan fetches page by page is a window cut into windows: the front
     of what is still wanted, and the window behind it (`window_step`).  How long the front is
     depends on where the row ends, so it is measured after it has been cut off.

  3. **Orders** — an order moves documents and neither loses nor doubles one
     (`orderDocuments_perm`), and an order without keys moves none (`orderDocuments_nil`).
-/
import DocStore.Order.Sort

namespace DocStore

variable {α : Type}

/-! ## Windows -/

/-- The elements behind the first `start`, at most as many as a limit says. -/
def window (start : Nat) (limit : Option Nat) (xs : List α) : List α :=
  match limit with
  | none => xs.drop start
  | some n => (xs.drop start).take n

/-- A bound as callers write it: null, or a number that is not negative. -/
def Value.bound : Option Nat → Value
  | none => .null
  | some n => .int n

theorem slice_none (start : Nat) (xs : List α) : slice (start : Int) none xs = xs.drop start := by
  have hstart : sliceBound xs.length (start : Int) = min start xs.length := by
    rw [sliceBound, if_neg (by omega), Int.toNat_natCast]
  simp only [slice, hstart, Option.map_none, Option.getD_none]
  -- A start behind the end is cut to the end, where nothing is left either way.
  rcases Nat.le_total start xs.length with h | h
  · rw [Nat.min_eq_left h, List.take_of_length_le (Nat.le_of_eq List.length_drop)]
  · rw [Nat.min_eq_right h, List.drop_eq_nil_of_le h, List.drop_length, List.take_nil]

theorem slice_some (start n : Nat) (xs : List α) :
    slice (start : Int) (some (start + n)) xs = (xs.drop start).take n := by
  have hbound : ∀ k : Nat, sliceBound xs.length (k : Int) = min k xs.length := by
    intro k
    rw [sliceBound, if_neg (by omega), Int.toNat_natCast]
  have hstop : sliceBound xs.length ((start : Int) + n) = min (start + n) xs.length :=
    hbound (start + n)
  simp only [slice, hbound, hstop, Option.map_some, Option.getD_some]
  rcases Nat.le_total start xs.length with h | h
  · rw [Nat.min_eq_left h, List.take_eq_take_iff, List.length_drop]
    omega
  · rw [Nat.min_eq_right h, List.drop_eq_nil_of_le h, List.drop_length,
      List.take_nil, List.take_nil]

/-- What callers may pass over is a number that is not negative. -/
theorem Value.skipped_bound (offset : Option Nat) :
    (Value.bound offset).skipped = .ok (offset.getD 0 : Nat) := by
  cases offset with
  | none => rfl
  | some n => cases n <;> rfl

/-- **A page is a window**, when its bounds are not negative. -/
theorem pageOf_bound (offset limit : Option Nat) (xs : List α) :
    pageOf (.bound offset) (.bound limit) xs = .ok (window (offset.getD 0) limit xs) := by
  rw [pageOf, Value.skipped_bound]
  cases limit with
  | none => exact congrArg Except.ok (slice_none _ xs)
  | some n => exact congrArg Except.ok (slice_some _ n xs)

/-- Whatever its bounds are, a page holds nothing that is not in the row. -/
theorem mem_of_mem_pageOf {offset limit : Value} {xs ys : List α}
    (h : pageOf offset limit xs = .ok ys) {x : α} (hx : x ∈ ys) : x ∈ xs := by
  have hslice : ∃ start stop, slice start stop xs = ys := by
    rw [pageOf] at h
    cases hstart : offset.skipped with
    | error e => rw [hstart] at h; cases h
    | ok start =>
      rw [hstart] at h
      change (if limit.isNull then _ else _) = _ at h
      split at h
      · exact ⟨_, _, Except.ok.inj h⟩
      · cases hlimit : limit.position with
        | error e => rw [hlimit] at h; cases h
        | ok n => rw [hlimit] at h; exact ⟨_, _, Except.ok.inj h⟩
  obtain ⟨start, stop, rfl⟩ := hslice
  exact List.mem_of_mem_drop (List.mem_of_mem_take hx)

/-! ## Windows in parts -/

theorem window_zero (start : Nat) (xs : List α) : window start (some 0) xs = [] := by
  rw [window, List.take_zero]

/-- A window shows nothing twice, and nothing out of order. -/
theorem window_sublist (start : Nat) (limit : Option Nat) (xs : List α) :
    (window start limit xs).Sublist xs := by
  cases limit with
  | none => exact List.drop_sublist start xs
  | some n => exact (List.take_sublist n _).trans (List.drop_sublist start xs)

theorem window_eq_nil {start : Nat} {xs : List α} (h : xs.drop start = []) (limit : Option Nat) :
    window start limit xs = [] := by
  cases limit with
  | none => exact h
  | some n => rw [window, h, List.take_nil]

/-- A window is a front of it, no longer than the limit, and the window behind that front. -/
theorem window_step {start k : Nat} {limit : Option Nat} (hk : ∀ n, limit = some n → k ≤ n)
    {xs front : List α} (hfront : (xs.drop start).take k = front) :
    window start limit xs =
      front ++ window (start + front.length) (limit.map (· - front.length)) xs := by
  have hlength : front.length ≤ k := by
    rw [← hfront, List.length_take]
    omega
  have htake : (xs.drop start).take front.length = front := by
    refine Eq.trans ?_ hfront
    rw [List.take_eq_take_iff, ← hfront, List.length_take]
    omega
  cases limit with
  | none =>
    show xs.drop start = front ++ xs.drop (start + front.length)
    rw [← List.drop_drop]
    exact (List.take_append_drop front.length (xs.drop start)).symm.trans (by rw [htake])
  | some n =>
    -- The front may be shorter than was asked for, but never longer than the limit.
    have hn : n = front.length + (n - front.length) := by
      have := hk n rfl
      omega
    show (xs.drop start).take n = front ++ (xs.drop (start + front.length)).take (n - front.length)
    rw [← List.drop_drop]
    calc (xs.drop start).take n
        = (xs.drop start).take (front.length + (n - front.length)) := by rw [← hn]
      _ = front ++ ((xs.drop start).drop front.length).take (n - front.length) := by
          rw [List.take_add, htake]

/-! ## Orders -/

/-- A row in which nothing goes before anything else stays as it is. -/
theorem insertionSort_of_not_less {less : α → α → Bool} (h : ∀ a b, less a b = false)
    (row : List α) :
    insertionSort less row = row := by
  have hchain : ∀ (a : α) (rest : List α), splitChain (fun x y => !less y x) a rest =
      (rest, []) := by
    intro a rest
    induction rest generalizing a with
    | nil => rfl
    | cons b rest ih => rw [splitChain, h b a, ih]; rfl
  rcases row with _ | ⟨a, _ | ⟨b, rest⟩⟩
  · rfl
  · rfl
  · rw [insertionSort, firstRun, h b a, hchain]
    rfl

/-- An order without keys moves nothing. -/
theorem orderDocuments_nil (name : Value → Value) (docs : List Value) :
    orderDocuments [] name docs = .ok docs := by
  have heasy : (docs.any fun doc => isHardToOrder [] doc) = false :=
    List.any_eq_false.2 (by simp [isHardToOrder])
  have hsort : sortDocuments [] name docs = docs := by
    rw [sortDocuments, SortKey.paths]
    simp only [heasy]
    exact insertionSort_of_not_less (fun _ _ => rfl) docs
  rw [orderDocuments, hsort]
  rfl

/-- Sorting neither loses nor doubles a document. -/
theorem sortDocuments_perm (keys : List SortKey) (name : Value → Value) (docs : List Value) :
    (sortDocuments keys name docs).Perm docs := by
  simp only [sortDocuments]
  split
  · exact runSort_perm _ docs
  · exact insertionSort_perm _ docs

/-- An order neither loses nor doubles a document. -/
theorem orderDocuments_perm {keys : List SortKey} {name : Value → Value} {docs ordered : List Value}
    (h : orderDocuments keys name docs = .ok ordered) : ordered.Perm docs := by
  simp only [orderDocuments] at h
  split at h
  · cases h
  · split at h
    · cases h
    · obtain rfl := Except.ok.inj h
      exact sortDocuments_perm keys name docs

end DocStore
