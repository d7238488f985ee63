/-
  When two values are equal, and how they are ordered.

  `same` compares by content: numbers and booleans by the number they count as, texts letter by
  letter, lists and rows element by element (a list is never a row), objects as sets of fields
  whatever their order.  What is no number is not even the same as itself.

  `order?` is the order *within* a kind of value: numbers and booleans by size, texts by code point,
  lists lexicographically.  Null, objects and values of different kinds have no order, and a list
  comparison that comes to such a pair has none either.

  `collate` is the order used for selecting and sorting.  It first ranks the kinds,

      null < boolean < number < text < list < object

  and falls back on `order?` within a rank; what has no order there counts as equal.  Equality in
  selectors (`equals`) is `same` together with an even collation, so that at the top a boolean is
  never a number.
-/
import DocStore.Value.Basic

namespace DocStore.Value

/-! ## Equality of content -/

mutual

/-- Whether two values have the same content. -/
def same : Value → Value → Bool
  | .null, .null => true
  | .text s, .text t => s = t
  | .list xs, .list ys => sameItems xs ys
  | .tuple xs, .tuple ys => sameItems xs ys
  | .object fs, .object gs => fs.length = gs.length && sameFields fs gs
  | .infinity m, .infinity n => m = n
  | .keyed k v, .keyed k' v' => same k k' && same v v'
  | .condition f v o c, .condition f' v' o' c' => same f f' && same v v' && o = o' && c = c'
  | .group k ms, .group k' ms' => k = k' && sameItems ms ms'
  | .sortKey f d, .sortKey f' d' => same f f' && d = d'
  | a, b =>
    match a.units?, b.units? with
    | some m, some n => m = n
    | _, _ => false

/-- Whether two rows of values have the same length and the same content throughout. -/
def sameItems : List Value → List Value → Bool
  | [], [] => true
  | x :: xs, y :: ys => same x y && sameItems xs ys
  | _, _ => false

/-- Whether every field of the first object is in the second with the same content. -/
def sameFields : List (String × Value) → Object → Bool
  | [], _ => true
  | (k, v) :: rest, others =>
    (match Object.get? others k with
     | some w => same v w
     | none => false) && sameFields rest others

end

/-! ## Order -/

/-- Where a kind of value stands among the others. -/
def rank : Value → Nat
  | .null => 0
  | .bool _ => 1
  | .int _ => 2
  | .double _ => 2
  | .infinity _ => 2
  | .nan => 2
  | .text _ => 3
  | .list _ => 4
  | .tuple _ => 4
  | _ => 5

mutual

/-- The order of two values of one kind; none when they cannot be ordered. -/
def order? : Value → Value → Option Ordering
  | .text s, .text t => some (compare s t)
  | .list xs, .list ys => orderItems? xs ys
  | .tuple xs, .tuple ys => orderItems? xs ys
  | .infinity m, .infinity n => some (compare n m)
  | .infinity m, b => b.units?.map fun _ => if m then .lt else .gt
  | a, .infinity n => a.units?.map fun _ => if n then .gt else .lt
  | a, b =>
    match a.units?, b.units? with
    | some m, some n => some (compare m n)
    | _, _ => none

/-- The order of two rows: that of the first pair that differs, else that of the lengths. -/
def orderItems? : List Value → List Value → Option Ordering
  | [], [] => some .eq
  | [], _ :: _ => some .lt
  | _ :: _, [] => some .gt
  | x :: xs, y :: ys => if same x y then orderItems? xs ys else order? x y

end

/-- The order for selecting and sorting: by rank, then within the rank, and even where the rank has
    no order. -/
def collate (a b : Value) : Ordering :=
  match compare a.rank b.rank with
  | .eq => (order? a b).getD .eq
  | o => o

example : collate (.list [.null]) (.list [.int 1]) = .eq := by decide +kernel

/-- Equality in selectors. -/
def equals (a b : Value) : Bool := collate a b = .eq && same a b

example : equals (.list [.int 1]) (.list [.bool true]) = true := by decide +kernel

end DocStore.Value
