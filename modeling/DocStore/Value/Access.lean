/-
  Using a value as what it may not be.

  Callers hand in data of any shape, and so may a store.  The functions here take a value for a
  list, an object or an entry of one, and say how that fails.  A text is iterated character by
  character and an object key by key.
-/
import DocStore.Failure

namespace DocStore.Value

/-- The elements of a value. -/
def elements : Value → Except Failure (List Value)
  | .list items => .ok items
  | .tuple items => .ok items
  | .text s => .ok (s.toList.map fun c => .text (String.singleton c))
  | .object fields => .ok (fields.map fun field => .text field.1)
  | .keyed key _ => .ok [key]
  | _ => .error .wrongKind

/-- The fields of a value, which has to be an object. -/
def fields : Value → Except Failure Object
  | .object fields => .ok fields
  | _ => .error .notObject

/-- The fields of a value that are to be set on something else, so that nothing but an object will
    do. -/
def mapping : Value → Except Failure Object
  | .object fields => .ok fields
  | _ => .error .wrongKind

/-- The number that a value counts as where positions are counted. -/
def position : Value → Except Failure Int
  | .int n => .ok n
  | .bool b => .ok (if b then 1 else 0)
  | _ => .error .wrongKind

/-- The number of elements to pass over: none if the value says nothing. -/
def skipped (v : Value) : Except Failure Int := if v.truthy then v.position else .ok 0

/-- The entry of a value under a key, which has to be there. -/
def entry (key : String) : Value → Except Failure Value
  | .object fields =>
    match Object.get? fields key with
    | some v => .ok v
    | none => .error .missingKey
  | _ => .error .wrongKind

mutual

/-- Whether the value can be a key, which nothing that holds a list or an object can. -/
def isKey : Value → Bool
  | .list _ => false
  | .object _ => false
  | .keyed .. => false
  | .tuple items => areKeys items
  | .condition field v _ _ => isKey field && isKey v
  | .group _ members => areKeys members
  | .sortKey field _ => isKey field
  | _ => true

/-- Whether all values of a row can be keys. -/
def areKeys : List Value → Bool
  | [] => true
  | v :: rest => isKey v && areKeys rest

end

/-- Whether one text stands somewhere in another. -/
def occursIn (part : List Char) : List Char → Bool
  | [] => part.isEmpty
  | c :: rest => part.isPrefixOf (c :: rest) || occursIn part rest

/-- Whether a text is among the elements of a value; in a text it is looked for as a part. -/
def holds (key : String) : Value → Except Failure Bool
  | .list items => .ok (items.any fun v => match v with | .text s => s = key | _ => false)
  | .tuple items => .ok (items.any fun v => match v with | .text s => s = key | _ => false)
  | .object fields => .ok (Object.has fields key)
  | .keyed .. => .ok false
  | .text s => .ok (occursIn key.toList s.toList)
  | _ => .error .wrongKind

/-- The parts of a ready-made thing by their names: `needed` are those that have to be there, and
    `known` all that may be. -/
def parts (needed known : List String) (v : Value) : Except Failure Object :=
  match v with
  | .object fields =>
    if needed.all (Object.has fields) && fields.all (fun field => known.contains field.1) then
      .ok fields
    else .error .wrongKind
  | _ => .error .wrongKind

end DocStore.Value
