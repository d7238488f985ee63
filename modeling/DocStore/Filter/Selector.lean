/-
  Selectors: the form of a filter that the store evaluates.

  A selector is an object.  A condition becomes its field with one operator and the operand, a group
  becomes `$and` or `$or` with the selectors of its members, and a filter that accepts everything
  becomes the empty object.  The relations fall into three families: comparisons keep the operand,
  membership wants a list (a single value stands for the list of it), and relations between texts
  become a pattern in which the operand is a literal.  An operator that is not known is passed on as
  it stands.

  A field that is no text is a key as it stands, unless it cannot be one.  What is no filter has no
  selector.

  `scope` adds an equality to a selector without touching what it says.
-/
import DocStore.Filter.Basic

namespace DocStore

/-! ## Literals in patterns -/

/-- The characters that mean something in a pattern. -/
def patternSpecials : List Char :=
  ['.', '*', '+', '?', '^', '$', '\x7b', '\x7d', '(', ')', '|', '[', ']', '\\']

/-- A literal text as a pattern: a backslash before every special character. -/
def escapePattern (cs : List Char) : List Char :=
  cs.flatMap fun c => if c ∈ patternSpecials then ['\\', c] else [c]

/-! ## The three families -/

namespace Relation

/-- The selector operator of a comparison. -/
def comparison? : Relation → Option String
  | .eq => some "$eq"
  | .ne => some "$ne"
  | .gt => some "$gt"
  | .gte => some "$gte"
  | .lt => some "$lt"
  | .lte => some "$lte"
  | _ => none

/-- The selector operator of a membership test. -/
def membership? : Relation → Option String
  | .isIn => some "$in"
  | .notIn => some "$nin"
  | _ => none

/-- The pattern of a relation between texts, around the escaped operand. -/
def pattern? (relation : Relation) (operand : List Char) : Option (List Char) :=
  match relation with
  | .contains => some (['.', '*'] ++ escapePattern operand ++ ['.', '*'])
  | .startsWith => some (['^'] ++ escapePattern operand ++ ['.', '*'])
  | .endsWith => some (['.', '*'] ++ escapePattern operand ++ ['$'])
  | _ => none

end Relation

/-- A value as a list: a single value stands for the list of it. -/
def Value.asList : Value → List Value
  | .list items => items
  | .tuple items => items
  | v => [v]

/-- A selector that applies one operator to one field. -/
def fieldSelector (field : Value) (operator : String) (operand : Value) : Value :=
  .single field (.object [(operator, operand)])

/-- The selector of a comparison, if the operator is one. -/
def comparisonSelector? (field : Value) (operator : Operator) (value : Value) : Option Value :=
  match operator with
  | .known relation => relation.comparison?.map fun op => fieldSelector field op value
  | .other _ => none

/-- The selector of a membership test, if the operator is one. -/
def membershipSelector? (field : Value) (operator : Operator) (value : Value) : Option Value :=
  match operator with
  | .known relation =>
    relation.membership?.map fun op => fieldSelector field op (.list value.asList)
  | .other _ => none

/-- The selector of a relation between texts, if the operator is one; its operand has to be a
    text. -/
def textSelector? (field : Value) (operator : Operator) (value : Value) :
    Except Failure (Option Value) :=
  match operator with
  | .known relation =>
    match relation.pattern? [], value with
    | none, _ => .ok none
    | some _, .text s =>
      .ok ((relation.pattern? s.toList).map fun pattern =>
        fieldSelector field "$regex" (.text (String.ofList pattern)))
    | some _, _ => .error (.query (.textRequired relation))
  | .other _ => .ok none

/-- What is built around a field, if the field can be a key.  A fault in what is built comes
    first. -/
def keyed {α : Type} (field : Value) (built : Except Failure α) : Except Failure α :=
  match built with
  | .ok a => if field.isKey then .ok a else .error .wrongKind
  | .error e => .error e

/-- The families of operators. -/
inductive Family where
  | comparison | membership | text
  deriving DecidableEq, Repr, Inhabited

/-- The selector that a family makes of an operator of its own, and none of any other. -/
def Family.selector? (family : Family) (field : Value) (operator : Operator) (value : Value) :
    Except Failure (Option Value) := do
  let built ←
    match family with
    | .comparison => .ok (comparisonSelector? field operator value)
    | .membership => .ok (membershipSelector? field operator value)
    | .text => textSelector? field operator value
  match built with
  | some selector => return some (← keyed field (.ok selector))
  | none => return none

/-! ## Compiling filters -/

namespace Condition

/-- The field that a condition tests in the store, where the identifier has its own key. -/
def storedField (idKey : Value) (c : Condition) : Value :=
  if c.isIdentifier then idKey else c.field

/-- The selector of a condition whose field can be a key. -/
def fragment (idKey : Value) (c : Condition) : Except Failure Value :=
  let field := c.storedField idKey
  match comparisonSelector? field c.operator c.value with
  | some s => .ok s
  | none =>
    match membershipSelector? field c.operator c.value with
    | some s => .ok s
    | none => do
      match ← textSelector? field c.operator c.value with
      | some s => return s
      | none => return fieldSelector field c.operator.name c.value

/-- The selector of a condition.  Its field has to be something that can be a key, and so has the
    key of the identifier where that takes its place. -/
def selector (idKey : Value) (c : Condition) : Except Failure Value :=
  if c.field.isKey then keyed (c.storedField idKey) (c.fragment idKey) else .error .wrongKind

end Condition

/-- The selector key of a connector. -/
def Connector.selectorKey : Connector → String
  | .and => "$and"
  | .or => "$or"

namespace Filter

mutual

/-- The selector of a filter.  A group without members accepts everything. -/
def selector (idKey : Value) : Filter → Except Failure Value
  | .anything => .ok (.object [])
  | .test c => c.selector idKey
  | .group _ [] => .ok (.object [])
  | .group kind (f :: rest) => do
    let first ← selector idKey f
    let others ← selectors idKey rest
    return .object [(kind.selectorKey, .list (first :: others))]
  | .stray _ => .error .notObject

/-- The selectors of the members of a group. -/
def selectors (idKey : Value) : List Filter → Except Failure (List Value)
  | [] => .ok []
  | f :: rest => do
    let s ← selector idKey f
    return s :: (← selectors idKey rest)

end

end Filter

/-! ## Narrowing a selector -/

namespace Value

/-- A selector joined with one more condition.  An empty selector becomes that condition, a
    conjunction gets one more member, and any other selector is joined with it. -/
def narrow (selector condition : Value) : Value :=
  if selector.truthy then
    match selector with
    | .object [("$and", .list members)] => .object [("$and", .list (members ++ [condition]))]
    | s => .object [("$and", .list [s, condition])]
  else condition

/-- A selector that also wants `field` to equal `value`. -/
def scope (selector : Value) (field : String) (value : Value) : Value :=
  selector.narrow (.object [(field, value)])

/-- Whether all elements of a row are the key of a conjunction, of which there is at least one. -/
def isConjunctionKeys (items : List Value) : Bool :=
  !items.isEmpty && items.all fun v => match v with | .text s => s = "$and" | _ => false

/-- Narrows what may be no selector by a field that may be no text.  A selector that is no object
    has to be a row of keys, but none in which a conjunction would be looked up. -/
def narrowTo (selector field value : Value) : Except Failure Value := do
  if selector.truthy then
    let keys ← selector.elements
    if !areKeys keys then throw .wrongKind
    match selector with
    | .list items => if isConjunctionKeys items then throw .wrongKind
    | .tuple items => if isConjunctionKeys items then throw .wrongKind
    | _ => pure ()
  if field.isKey then return selector.narrow (.single field value) else throw .wrongKind

end Value

example : (Value.object []).scope "kind" (.text "a") = .object [("kind", .text "a")] := rfl

end DocStore
