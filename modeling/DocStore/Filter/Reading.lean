/-
  Reading filters from data.

  A caller writes a filter in one of these forms:

  * null, which accepts everything;
  * a ready-made condition or group, taken as it is, whatever the group holds;
  * an object with a field name, which is a condition, its parts under `field`, `operator`, `value`
    and `connector` or under the shorter `attr`, `op` and `val`;
  * an object whose `op` is a connector and which has `conditions`: a group, its members being
    filters again;
  * a list of conditions, grouped by the rule of `Filter.ofConditions`.  An entry of such a list
    that names no field has nothing to test and is left out.

  Anything else is refused, with the value shown in the message.
-/
import DocStore.Filter.Basic

namespace DocStore

/-- Reads an operator from any value by its text. -/
def Operator.ofValue (v : Value) : Operator := .ofName v.written

/-- Reads a connector from any value by its text; null is AND. -/
def Connector.ofValue (v : Value) : Except Failure Connector :=
  match v with
  | .null => .ok .and
  | v =>
    match Connector.ofText? v.written with
    | some c => .ok c
    | none => .error (.query (.unknownConnector v))

namespace Condition

/-- The first of two keys that is set, or null. -/
def either (fields : Object) (key other : String) : Value :=
  match Object.get? fields key with
  | some v => v
  | none => Object.getD fields other

/-- What an object gives as the name of the field. -/
def fieldOf (fields : Object) : Value := either fields "field" "attr"

/-- What an object gives as the operator; what counts as absent is equality. -/
def operatorOf (fields : Object) : Operator :=
  let given := either fields "operator" "op"
  if given.truthy then .ofValue given else .known .eq

/-- What an object gives as the connector; what counts as absent is AND. -/
def connectorOf (fields : Object) : Except Failure Connector :=
  let given := Object.getD fields "connector"
  if given.truthy then Connector.ofValue given else .ok .and

/-- Reads a condition from an object. -/
def ofFields (fields : Object) : Except Failure Condition := do
  let field := fieldOf fields
  if field.truthy then
    let connector ← connectorOf fields
    return ⟨.text field.written, either fields "value" "val", operatorOf fields, connector⟩
  else throw (.query (.noField (.object fields)))

/-- The conditions of a flat list. -/
def ofItems : List Value → Except Failure (List Condition)
  | [] => .ok []
  | .condition f v o c :: rest => return ⟨f, v, o, c⟩ :: (← ofItems rest)
  | .object fields :: rest =>
    if (fieldOf fields).truthy then do
      let c ← ofFields fields
      return c :: (← ofItems rest)
    else ofItems rest
  | item :: _ => throw (.query (.unsupportedCondition item))

end Condition

namespace Filter

mutual

/-- A member of a ready-made group as a filter; null accepts everything. -/
def ofPart : Value → Filter
  | .null => .anything
  | .condition f v o c => .test ⟨f, v, o, c⟩
  | .group kind members => .group kind (ofParts members)
  | v => .stray v

/-- The members of a ready-made group. -/
def ofParts : List Value → List Filter
  | [] => []
  | v :: rest => ofPart v :: ofParts rest

end

/-- The connector of a group that an object writes out, if its `op` is one. -/
def groupKind? (fields : Object) : Option Connector :=
  match Object.get? fields "op" with
  | some op => Connector.ofText? op.written
  | none => none

mutual

/-- Reads a filter that is a member of a group. -/
def ofNode : Value → Except Failure Filter
  | .object fields =>
    match groupKind? fields, membersIn fields with
    | some kind, some members => return ofMembers kind (← members)
    | _, _ => return .test (← Condition.ofFields fields)
  | .list items => return ofConditions (← Condition.ofItems items)
  | .tuple items => return ofConditions (← Condition.ofItems items)
  | .condition f v o c => .ok (.test ⟨f, v, o, c⟩)
  | .group kind members => .ok (.group kind (ofParts members))
  | v => throw (.query (.unsupportedNode v))

/-- The members that an object gives under `conditions`, if it has that key. -/
def membersIn : List (String × Value) → Option (Except Failure (List Filter))
  | [] => none
  | (key, v) :: rest => if key = "conditions" then some (membersOf v) else membersIn rest

/-- The members of a group, given as a list.  What counts as absent has no members; a text or an
    object would be iterated, but no character and no key is a filter. -/
def membersOf : Value → Except Failure (List Filter)
  | .list items => ofNodes items
  | .tuple items => ofNodes items
  | .text s =>
    match s.toList with
    | [] => .ok []
    | c :: _ => throw (.query (.unsupportedNode (.text (String.singleton c))))
  | .object [] => .ok []
  | .object ((key, _) :: _) => throw (.query (.unsupportedNode (.text key)))
  | v => if v.truthy then throw .wrongKind else .ok []

/-- Reads the members of a group one after the other. -/
def ofNodes : List Value → Except Failure (List Filter)
  | [] => .ok []
  | v :: rest => do
    let f ← ofNode v
    return f :: (← ofNodes rest)

end

/-- Reads a filter. -/
def ofValue : Value → Except Failure Filter
  | .null => .ok .anything
  | v@(.object _) => ofNode v
  | v@(.list _) => ofNode v
  | v@(.tuple _) => ofNode v
  | v@(.condition ..) => ofNode v
  | v@(.group ..) => ofNode v
  | v => throw (.query (.unsupportedFilter v))

end Filter

/-! ## Ready-made parts -/

/-- A ready-made condition, from what a caller gives for its parts: an absent operator is equality,
    an absent connector AND. -/
def Value.makeCondition (given : Value) : Except Failure Value := do
  let parts ← given.parts ["field", "value"] ["field", "value", "operator", "connector"]
  let operator :=
    match Object.get? parts "operator" with
    | some v => Operator.ofValue v
    | none => .known .eq
  let connector ← Connector.ofValue (Object.getD parts "connector")
  return .condition (Object.getD parts "field") (Object.getD parts "value") operator connector

/-- A ready-made group, which is empty unless its children are given. -/
def Value.makeGroup (given : Value) : Except Failure Value := do
  let parts ← given.parts ["kind"] ["kind", "children"]
  let connector ← Connector.ofValue (Object.getD parts "kind")
  let children := (Object.get? parts "children").getD (.tuple [])
  return .group connector (← children.elements)

end DocStore
