/-
  The vocabulary of filters: what a condition may say about a field, and how conditions are joined.

  A condition names a `Relation` (one of eleven, each with several accepted spellings) or, when the
  spelling is not known, any other text, which later travels to the store as it stands.  So an
  `Operator` is either a known relation or an unknown name, and reading a name never fails.

  Conditions and groups are joined by a `Connector`; here an unknown spelling is refused.
-/

namespace DocStore

/-- What a condition states about the value of its field. -/
inductive Relation where
  | eq | ne | isIn | notIn | gt | gte | lt | lte | contains | startsWith | endsWith
  deriving DecidableEq, Repr, Inhabited

/-- The canonical spelling of a relation. -/
def Relation.name : Relation → String
  | .eq => "eq"
  | .ne => "ne"
  | .isIn => "in"
  | .notIn => "not_in"
  | .gt => "gt"
  | .gte => "gte"
  | .lt => "lt"
  | .lte => "lte"
  | .contains => "contains"
  | .startsWith => "starts_with"
  | .endsWith => "ends_with"

/-- The name by which the relation's constant is shown in a written-out condition. -/
def Relation.label : Relation → String
  | .eq => "EQ"
  | .ne => "NE"
  | .isIn => "IN"
  | .notIn => "NOT_IN"
  | .gt => "GT"
  | .gte => "GTE"
  | .lt => "LT"
  | .lte => "LTE"
  | .contains => "CONTAINS"
  | .startsWith => "STARTS_WITH"
  | .endsWith => "ENDS_WITH"

/-- A relation, or the text of an operator that this library does not know. -/
inductive Operator where
  | known (relation : Relation)
  | other (name : String)
  deriving DecidableEq, Repr, Inhabited

namespace Operator

/-- Every spelling of every relation. -/
def spellings : List (String × Relation) :=
  [("eq", .eq), ("equals", .eq), ("=", .eq),
   ("ne", .ne), ("not", .ne), ("!=", .ne),
   ("in", .isIn), ("not_in", .notIn), ("notIn", .notIn),
   ("gt", .gt), (">", .gt), ("gte", .gte), (">=", .gte),
   ("lt", .lt), ("<", .lt), ("lte", .lte), ("<=", .lte),
   ("contains", .contains),
   ("starts_with", .startsWith), ("startsWith", .startsWith), ("startswith", .startsWith),
   ("ends_with", .endsWith), ("endsWith", .endsWith), ("endswith", .endsWith)]

/-- Reads an operator: a known spelling gives its relation, any other text is kept. -/
def ofName (name : String) : Operator :=
  match spellings.lookup name with
  | some relation => .known relation
  | none => .other name

/-- The canonical name of a relation, or the kept text. -/
def name : Operator → String
  | .known relation => relation.name
  | .other name => name

/-- Whether the operator is one of the known relations. -/
def isKnown : Operator → Bool
  | .known _ => true
  | .other _ => false

end Operator

/-- Every relation is read back from its canonical name. -/
theorem Operator.ofName_name (relation : Relation) :
    Operator.ofName relation.name = .known relation := by
  cases relation <;> decide

/-- How a condition joins the one before it, and how a group joins its members. -/
inductive Connector where
  | and | or
  deriving DecidableEq, Repr, Inhabited

namespace Connector

/-- The written form of a connector. -/
def name : Connector → String
  | .and => "AND"
  | .or => "OR"

/-- Reads a connector in any mixture of cases.  Only the letters of the two words matter, and no
    character outside ASCII becomes one of them in upper case, so ASCII case mapping suffices. -/
def ofText? (text : String) : Option Connector :=
  if text.toUpper = "AND" then some .and
  else if text.toUpper = "OR" then some .or
  else none

end Connector

/-- Every connector is read back from its written form. -/
theorem Connector.ofText?_name (c : Connector) : Connector.ofText? c.name = some c := by
  cases c <;> decide +kernel

end DocStore
