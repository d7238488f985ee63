/-
  Sort keys: what callers may write for an order, and what the store is asked for.

  An order is a row of keys, each a field with a direction.  A caller may write a single entry or a
  row of them.  An entry is a ready-made key, an object with `field` and `direction`, a row of field
  and direction (`tuple`; a list does not count as an entry), or a text with a minus in front for
  descending.  A row of two whose second element is a direction is one entry and not two.  The
  single `sortBy` entry is used when no order is given.

  A ready-made key may name its field by any value.  The store can be asked for it if the value can
  be a key.
-/
import DocStore.Value.Access

namespace DocStore

/-- One key of an order. -/
structure SortKey where
  field : Value
  descending : Bool
  deriving Repr, Inhabited

namespace SortKey

/-- Reads a direction in any mixture of cases. -/
def direction? (text : String) : Option Bool :=
  if text.toLower = "asc" then some false
  else if text.toLower = "desc" then some true
  else none

/-- A key with the direction that a value gives by its text. -/
def make (field : Value) (direction : Value) : Except Failure SortKey :=
  match direction? direction.written with
  | some descending => .ok ⟨field, descending⟩
  | none => .error (.query (.invalidDirection direction))

/-- The name of the key's direction. -/
def direction (key : SortKey) : String := directionName key.descending

/-- Whether a row is a field with its direction. -/
def isPair : List Value → Bool
  | [_, .text direction] => (direction? direction).isSome
  | _ => false

/-- A key written as a text. -/
def ofText (s : String) : SortKey :=
  match s.toList with
  | '-' :: rest => ⟨.text (String.ofList rest), true⟩
  | _ => ⟨.text s, false⟩

/-- Reads one entry of an order. -/
def ofEntry : Value → Except Failure SortKey
  | .sortKey field descending => .ok ⟨field, descending⟩
  | .object fields =>
    match Object.get? fields "field" with
    | none => .error .missingKey
    | some field => make (.text field.written) ((Object.get? fields "direction").getD (.text "asc"))
  | .tuple (field :: direction :: _) => make (.text field.written) direction
  | .tuple _ => .error .noPosition
  | .text s => .ok (ofText s)
  | v => .error (.query (.unsupportedSort v))

/-- Reads entries one after the other. -/
def ofEntries : List Value → Except Failure (List SortKey)
  | [] => .ok []
  | v :: rest => do
    let key ← ofEntry v
    return key :: (← ofEntries rest)

/-- Reads an order, or the single entry given instead of one. -/
def ofOrder (orderBy sortBy : Value) : Except Failure (List SortKey) :=
  if orderBy.truthy then
    match orderBy with
    | .sortKey .. | .object _ | .text _ => ofEntries [orderBy]
    | .tuple items => if isPair items then ofEntries [orderBy] else ofEntries items
    | v => do ofEntries (← v.elements)
  else if sortBy.truthy then ofEntries [sortBy]
  else .ok []

/-- The order as the store is asked for it: one object for each key. -/
def request (name : Value → Value) (keys : List SortKey) : List Value :=
  keys.map fun key => .single (name key.field) (.text key.direction)

/-- The order as the store is asked for it, when every field and its name there can be keys. -/
def requested (name : Value → Value) (keys : List SortKey) : Except Failure (List Value) :=
  if keys.all fun key => key.field.isKey && (name key.field).isKey then .ok (request name keys)
  else .error .wrongKind

/-- Reads the fields of one object of a requested order. -/
def ofRequestFields : List (String × Value) → Except Failure (List SortKey)
  | [] => .ok []
  | (field, direction) :: rest => do
    let key ← make (.text field) direction
    return key :: (← ofRequestFields rest)

/-- Reads one object of a requested order. -/
def ofRequestEntry : Value → Except Failure (List SortKey)
  | .keyed field direction => return [← make field direction]
  | entry => do ofRequestFields (← entry.fields)

/-- Reads a requested order. -/
def ofRequestItems : List Value → Except Failure (List SortKey)
  | [] => .ok []
  | entry :: rest => do
    let keys ← ofRequestEntry entry
    return keys ++ (← ofRequestItems rest)

/-- Reads a requested order; what counts as absent asks for none. -/
def ofRequest (sort : Value) : Except Failure (List SortKey) :=
  if sort.truthy then do ofRequestItems (← sort.elements) else .ok []

/-- A ready-made key, which ascends unless its direction is given. -/
def ofParts (given : Value) : Except Failure Value := do
  let parts ← given.parts ["field"] ["field", "direction"]
  let key ← make (Object.getD parts "field")
    ((Object.get? parts "direction").getD (.text "asc"))
  return .sortKey key.field key.descending

end SortKey

end DocStore
