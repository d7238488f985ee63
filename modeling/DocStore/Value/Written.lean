/-
  Values written out, as messages and logs show them.

  `shown` is the form inside other values and in quotes where a text is meant: null is `None`,
  booleans are capitalised, texts are quoted, lists have square brackets, rows round ones (with a
  comma after a single element) and objects braces.  `written` is the form in running text: a text
  stands as it is, everything else as shown.
-/
import DocStore.Value.Basic
import DocStore.Number.Decimal
import DocStore.Text.Quoted

namespace DocStore

/-- An operator inside a written-out condition: a relation with its label, any other text quoted. -/
def Operator.shown : Operator → String
  | .known relation =>
    "<WhereOperator." ++ relation.label ++ ": " ++ Text.quoted relation.name ++ ">"
  | .other name => Text.quoted name

/-- A connector inside a written-out condition or group. -/
def Connector.shown (c : Connector) : String :=
  "<Connector." ++ c.name ++ ": " ++ Text.quoted c.name ++ ">"

/-- The direction of a sort key in words. -/
def directionName (descending : Bool) : String := if descending then "desc" else "asc"

namespace Value

mutual

/-- A value as it is shown inside other values. -/
def shown : Value → String
  | .null => "None"
  | .bool true => "True"
  | .bool false => "False"
  | .int n => toString n
  | .double d => d.toText
  | .infinity negative => if negative then "-inf" else "inf"
  | .nan => "nan"
  | .text s => Text.quoted s
  | .list items => "[" ++ ", ".intercalate (shownItems items) ++ "]"
  | .tuple items => shownTuple items
  | .object fields => "\x7b" ++ ", ".intercalate (shownFields fields) ++ "\x7d"
  | .keyed key value => "\x7b" ++ shown key ++ ": " ++ shown value ++ "\x7d"
  | .condition field value operator connector =>
    "Condition(field=" ++ shown field ++ ", value=" ++ shown value ++
      ", operator=" ++ operator.shown ++ ", connector=" ++ connector.shown ++ ")"
  | .group kind members =>
    "LogicalExpression(kind=" ++ kind.shown ++ ", children=" ++ shownTuple members ++ ")"
  | .sortKey field descending =>
    "SortField(field=" ++ shown field ++ ", direction=" ++
      Text.quoted (directionName descending) ++ ")"

/-- The elements of a list, each as shown. -/
def shownItems : List Value → List String
  | [] => []
  | v :: rest => shown v :: shownItems rest

/-- A row in round brackets, with a comma after a single element. -/
def shownTuple : List Value → String
  | [] => "()"
  | [v] => "(" ++ shown v ++ ",)"
  | v :: w :: rest => "(" ++ ", ".intercalate (shown v :: shown w :: shownItems rest) ++ ")"

/-- The fields of an object, each with its key. -/
def shownFields : List (String × Value) → List String
  | [] => []
  | (k, v) :: rest => (Text.quoted k ++ ": " ++ shown v) :: shownFields rest

end

example : (Value.list [.int 1, .text "a"]).shown = "[1, 'a']" := by decide +kernel

/-- A value in running text. -/
def written : Value → String
  | .text s => s
  | v => v.shown

example : (Value.text "a").written = "a" := by decide +kernel

end Value

end DocStore
