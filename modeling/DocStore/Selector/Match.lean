/-
  Evaluating selectors.

  A selector is read field by field in its own order.  The keys `$and`, `$or`, `$nor` and `$not`
  combine selectors; every other key is a dotted path whose value in the document has to meet the
  condition beside it.  A condition that is an object with operators only is a row of operators that
  all have to hold; an object with any other key is a selector for the value itself; whatever else
  stands there is meant literally.

  Evaluation stops at the first field that fails, so a malformed part is met only when everything
  before it holds.  That is why the order of fields matters, and why the answer is a truth value or
  a failure.

  The value looked up may be missing, which is not null: only `$exists` and `$not` look at a missing
  value, every other operator fails on it.
-/
import DocStore.Value.Access
import DocStore.Value.Equality
import DocStore.Value.Path
import DocStore.Pattern.Reading

namespace DocStore.Selector

/-! ## Operators on a single value -/

/-- Whether a value is among the elements of another. -/
def isAmong (v candidates : Value) : Except Failure Bool := do
  let items ← candidates.elements
  return items.any fun c => v.equals c

/-- Whether a text matches a pattern.  What is not a text does not, whatever the pattern is. -/
def matchesPattern (v pattern : Value) : Except Failure Bool :=
  match v, pattern with
  | .text s, .text p =>
    match Pattern.read? p.toList with
    | some regex => .ok (regex.search s.toList)
    | none => .error .badPattern
  | .text _, _ => .error .wrongKind
  | _, _ => .ok false

/-- Whether a list has as many elements as the operand says. -/
def hasSize (v size : Value) : Bool :=
  match v with
  | .list items => Value.same (.int items.length) size
  | _ => false

/-- Whether a list holds every element of the operand. -/
def holdsAll (v wanted : Value) : Except Failure Bool :=
  match v with
  | .list items => do
    let ws ← wanted.elements
    return ws.all fun w => items.any fun item => item.equals w
  | _ => .ok false

/-- The refusal of an operator that the store does not know. -/
def invalidOperator (op : String) : Failure :=
  let message := "Invalid operator: " ++ op
  .refused ⟨.general, message, .int 400, .text "invalid_operator", .text message⟩

/-- Whether a value that is there meets an operator. -/
def meets (op : String) (v operand : Value) : Except Failure Bool :=
  if op = "$eq" then .ok (v.equals operand)
  else if op = "$ne" then .ok (!v.equals operand)
  else if op = "$gt" then .ok (v.collate operand = .gt)
  else if op = "$gte" then .ok (v.collate operand ≠ .lt)
  else if op = "$lt" then .ok (v.collate operand = .lt)
  else if op = "$lte" then .ok (v.collate operand ≠ .gt)
  else if op = "$in" then isAmong v operand
  else if op = "$nin" then (isAmong v operand).map (!·)
  else if op = "$regex" then matchesPattern v operand
  else if op = "$size" then .ok (hasSize v operand)
  else if op = "$all" then holdsAll v operand
  else .error (invalidOperator op)

/-- Whether a text is written as an operator. -/
def isOperator (key : String) : Bool :=
  match key.toList with
  | '$' :: _ => true
  | _ => false

/-- The refusal that an iterated value gives when its elements are used as selectors: none if it has
    no elements. -/
def notSelectors (v : Value) : Except Failure Unit := do
  match ← v.elements with
  | [] => return ()
  | _ :: _ => throw .notObject

/-! ## Selectors on documents -/

mutual

/-- Whether a document matches a selector. -/
def test : (selector : Value) → (document : Value) → Except Failure Bool
  | .object fields, doc => testFields fields doc
  | _, _ => .error .notObject
  termination_by structural selector => selector

/-- Whether a document meets the fields of a selector, up to the first that fails. -/
def testFields : List (String × Value) → Value → Except Failure Bool
  | [], _ => .ok true
  | (key, condition) :: rest, doc => do
    let holds : Bool ←
      if key = "$and" then
        match condition with
        | .list items => testAll items doc
        | .tuple items => testAll items doc
        | v => (notSelectors v).map fun _ => true
      else if key = "$or" then
        match condition with
        | .list items => testAny items doc
        | .tuple items => testAny items doc
        | v => (notSelectors v).map fun _ => false
      else if key = "$nor" then
        match condition with
        | .list items => (testAny items doc).map (!·)
        | .tuple items => (testAny items doc).map (!·)
        | v => (notSelectors v).map fun _ => true
      else if key = "$not" then (test condition doc).map (!·)
      else testCondition condition (doc.at? key)
    if holds then testFields rest doc else return false
  termination_by structural fields => fields

/-- Whether a document matches every selector of a row. -/
def testAll : List Value → Value → Except Failure Bool
  | [], _ => .ok true
  | s :: rest, doc => do if ← test s doc then testAll rest doc else return false
  termination_by structural row => row

/-- Whether a document matches some selector of a row. -/
def testAny : List Value → Value → Except Failure Bool
  | [], _ => .ok false
  | s :: rest, doc => do if ← test s doc then return true else testAny rest doc
  termination_by structural row => row

/-- Whether the value looked up, if any, meets a condition. -/
def testCondition : Value → Option Value → Except Failure Bool
  | .object fields, found =>
    if fields.isEmpty then .ok (found.any fun v => v.equals (.object []))
    else if fields.all fun field => isOperator field.1 then testOperators fields found
    else
      match found with
      | some (.object inner) => testFields fields (.object inner)
      | _ => .ok false
  | literal, found => .ok (found.any fun v => v.equals literal)
  termination_by structural condition => condition

/-- Whether the value looked up, if any, meets a row of operators, up to the first that fails. -/
def testOperators : List (String × Value) → Option Value → Except Failure Bool
  | [], _ => .ok true
  | (op, operand) :: rest, found => do
    let holds : Bool ←
      if op = "$exists" then .ok (found.isSome == operand.truthy)
      else if op = "$not" then (testCondition operand found).map (!·)
      else
        match found with
        | none => .ok false
        | some v => meets op v operand
    if holds then testOperators rest found else return false
  termination_by structural operators => operators

end

end DocStore.Selector
