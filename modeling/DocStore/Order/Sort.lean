/-
  Ordering and paging documents.

  Documents are compared key by key.  On each key, a document whose value is absent or null comes
  after all that have one, in both directions; other values go by `Value.collate`, reversed for a
  descending key.  The next key decides what the one before it leaves even, and documents that are
  even on every key keep their order.

  Arrays with elements that do not compare are even with each other, and such rows are sorted by
  runs.  All others are sorted by insertion.

  A page is a slice.  Bounds count from the end when they are negative and are cut to the length of
  the row, so every pair of bounds names a slice.  `pageOf` takes bounds as callers give them: an
  offset that says nothing is none, and any other bound has to be a number that can be counted to.
-/
import DocStore.Order.Runs
import DocStore.Order.Key
import DocStore.Value.Equality
import DocStore.Value.Path

namespace DocStore

/-- The value at a path as far as it takes part in an order: null counts as absent. -/
def Value.sortable? (v : Value) (path : String) : Option Value :=
  match v.at? path with
  | some .null => none
  | found => found

/-- The order of two values that may be absent; what is absent comes last in both directions. -/
def compareOptional (descending : Bool) : Option Value → Option Value → Ordering
  | none, none => .eq
  | none, some _ => .gt
  | some _, none => .lt
  | some a, some b => if descending then (a.collate b).swap else a.collate b

/-- The order of two documents under a row of paths with directions. -/
def compareBy : List (String × Bool) → Value → Value → Ordering
  | [], _, _ => .eq
  | (path, descending) :: rest, a, b =>
    (compareOptional descending (a.sortable? path) (b.sortable? path)).then (compareBy rest a b)

/-- The paths of an order with their directions, up to the first name that is no path. -/
def SortKey.paths (name : Value → Value) : List SortKey → List (String × Bool)
  | [] => []
  | key :: rest =>
    match name key.field with
    | .text path => (path, key.descending) :: paths name rest
    | _ => []

/-- Whether a document has a value at one of the paths that need not compare with its like. -/
def isHardToOrder (paths : List (String × Bool)) (doc : Value) : Bool :=
  paths.any fun path =>
    match doc.sortable? path.1 with
    | some (.list _) => true
    | some (.tuple _) => true
    | some .nan => true
    | _ => false

/-- The documents in order, those that are even in the order given.  Keys count up to the first that
    is no path. -/
def sortDocuments (keys : List SortKey) (name : Value → Value) (docs : List Value) :
    List Value :=
  let paths := SortKey.paths name keys
  let before := fun a b => decide (compareBy paths a b = .lt)
  if docs.any (isHardToOrder paths) then runSort before docs else insertionSort before docs

/-- Whether two documents of a row are even on all paths. -/
def hasEvenPair (paths : List (String × Bool)) : List Value → Bool
  | [] => false
  | doc :: rest => (rest.any fun other => compareBy paths doc other = .eq) || hasEvenPair paths rest

/-- The documents in order, if it can be told: a key that cannot be a key of anything has no name in
    the store, and one that is no path cannot be followed when it comes to it. -/
def orderDocuments (keys : List SortKey) (name : Value → Value) (docs : List Value) :
    Except Failure (List Value) :=
  let paths := SortKey.paths name keys
  if !keys.all fun key => key.field.isKey then .error .wrongKind
  else if paths.length < keys.length && hasEvenPair paths docs then .error .notObject
  else .ok (sortDocuments keys name docs)

/-! ## Slices -/

/-- A bound as a position in a row of the given length. -/
def sliceBound (length : Nat) (bound : Int) : Nat :=
  if bound < 0 then (length + bound).toNat else min bound.toNat length

/-- The elements from position `start` up to, but not including, position `stop`. -/
def slice {α : Type} (start : Int) (stop : Option Int) (xs : List α) : List α :=
  let first := sliceBound xs.length start
  let last := (stop.map (sliceBound xs.length)).getD xs.length
  (xs.drop first).take (last - first)

example : slice 1 (some (-1)) [1, 2, 3, 4] = [2, 3] := by decide

/-- The page of a row that begins at an offset and has at most `limit` elements. -/
def page {α : Type} (offset limit : Option Int) (xs : List α) : List α :=
  let start := offset.getD 0
  slice start (limit.map (start + ·)) xs

example : page (some (-2)) none [1, 2, 3] = [2, 3] := by decide

/-- The page of a row between bounds of any kind; null is no limit. -/
def pageOf {α : Type} (offset limit : Value) (xs : List α) : Except Failure (List α) := do
  let start ← offset.skipped
  if limit.isNull then return page (some start) none xs
  else return page (some start) (some (← limit.position)) xs

end DocStore
