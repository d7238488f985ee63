/-
  Sets of code points, and maps from them, that come in runs.

  A set is given by the code points at which it begins and ends, in order: what lies before the
  first is outside, what lies from the first up to the second inside, and so on.  So a code point is
  inside iff an odd number of them lies at or before it.  A map is given by the code points at which
  its value changes, each with the value from there on.
-/

namespace DocStore.Text

/-- The number of leading entries at or below `n`. -/
def changesUpTo (n : Nat) : List Nat → Nat
  | [] => 0
  | c :: rest => if c ≤ n then changesUpTo n rest + 1 else 0

/-- Whether a code point is in the set that begins and ends at `changes`. -/
def inRuns (changes : List Nat) (n : Nat) : Bool := changesUpTo n changes % 2 = 1

example : inRuns [10, 20] 10 = true := by decide

/-- The value at a code point of the map whose value is `start` up to the first change. -/
def valueAt {α : Type} (start : α) : List (Nat × α) → Nat → α
  | [], _ => start
  | (first, value) :: rest, n => if first ≤ n then valueAt value rest n else start

example : valueAt 'a' [(10, 'b'), (20, 'c')] 15 = 'b' := by decide

end DocStore.Text
