/-
  Filters as trees, and the rule that makes a tree of a flat list of conditions.

  A `Condition` tests one field.  A `Filter` accepts everything, tests one condition, or joins the
  filters of a group.  In a flat list each condition carries the connector that joins it to the one
  before it, and the rule is: a condition joined by AND (and the first one, whatever it says) opens
  a run, the conditions joined by OR that follow belong to it, and the runs are joined by AND.

      [A, OR B, AND C]   gives   AND(OR(A, B), C)
      [A, AND B, OR C]   gives   AND(A, OR(B, C))

  A run of one condition stands for itself, and so does a list of one run.

  A field is named by a text.  Ready-made conditions may name it by any value, and ready-made groups
  may hold anything; such parts are carried along (`stray` for what is no filter) until a selector
  is wanted of them.
-/
import DocStore.Value.Access

namespace DocStore

/-- A test of one field.  The connector matters only in a flat list. -/
structure Condition where
  field : Value
  value : Value
  operator : Operator
  connector : Connector
  deriving Repr, Inhabited

/-- The fields that mean the identifier of a document. -/
def isIdentifierField : Value → Bool
  | .text s => s = "id" || s = "_id"
  | _ => false

/-- Whether the condition tests the identifier. -/
def Condition.isIdentifier (c : Condition) : Bool := isIdentifierField c.field

/-- The condition as a value. -/
def Condition.toValue (c : Condition) : Value := .condition c.field c.value c.operator c.connector

/-- A filter. -/
inductive Filter where
  /-- Accepts every document. -/
  | anything
  /-- Tests one condition. -/
  | test (c : Condition)
  /-- Joins the filters of a group. -/
  | group (kind : Connector) (members : List Filter)
  /-- Stands for something else that a ready-made group holds. -/
  | stray (v : Value)
  deriving Repr, Inhabited

namespace Filter

/-- Whether the filter is the one that accepts everything. -/
def isAnything : Filter → Bool
  | .anything => true
  | _ => false

/-! ## Grouping a flat list -/

/-- The runs of a flat list: a run goes on as long as the next condition is joined by OR. -/
def runs (conditions : List Condition) : List (List Condition) :=
  conditions.splitBy fun _ next => next.connector = .or

/-- The filter of one run. -/
def ofRun : List Condition → Filter
  | [c] => .test c
  | run => .group .or (run.map .test)

/-- The filter of a flat list of conditions. -/
def ofConditions (conditions : List Condition) : Filter :=
  match (runs conditions).map ofRun with
  | [] => .anything
  | [single] => single
  | terms => .group .and terms

/-- The filter of a group whose members may accept everything: those members add nothing, and a
    group that is left with one member is that member. -/
def ofMembers (kind : Connector) (members : List Filter) : Filter :=
  match members.filter fun f => !f.isAnything with
  | [] => .anything
  | [single] => single
  | terms => .group kind terms

/-! ## The document a filter names, and the names in it -/

/-- The identifier, when the filter is exactly one equality on it with a value other than null and
    the empty text.  A filter that says more goes by its conditions. -/
def identifier? : Filter → Option String
  | .test c =>
    if c.isIdentifier ∧ c.operator = .known .eq then
      match c.value with
      | .null => none
      | .text "" => none
      | v => some v.written
    else none
  | _ => none

mutual

/-- The leaves of a filter, from left to right. -/
def leaves : Filter → List Condition
  | .anything => []
  | .test c => [c]
  | .group _ members => leavesOf members
  | .stray _ => []

/-- The leaves of a row of filters. -/
def leavesOf : List Filter → List Condition
  | [] => []
  | f :: rest => leaves f ++ leavesOf rest

end

/-- The identifier that a filter names, when the fields of its leaves can be told apart from it: a
    field that cannot be a key of anything cannot. -/
def identifier (f : Filter) : Except Failure (Option String) :=
  match f with
  | .test c => if c.field.isKey then .ok f.identifier? else .error .wrongKind
  | _ => .ok f.identifier?

mutual

/-- The filter with every field but the identifier renamed.  A member that accepts everything is
    left out of its group. -/
def rename (name : Value → Value) : Filter → Filter
  | .anything => .anything
  | .test c =>
    .test (if c.isIdentifier then c else { c with field := name c.field })
  | .group kind members => .group kind (renameMembers name members)
  | .stray v => .stray v

/-- The renamed members of a group. -/
def renameMembers (name : Value → Value) : List Filter → List Filter
  | [] => []
  | .anything :: rest => renameMembers name rest
  | f :: rest => rename name f :: renameMembers name rest

end

end Filter

end DocStore
