/-
  Plain data as JSON text.

  Lists and rows both become arrays, fields keep their order, and doubles get the fewest digits that
  read back.  The infinities and what is no number have names of their own, which `read` knows.

  `plain` says which values have a JSON form that can be sent: it turns rows into arrays and the
  keys of single fields into texts, and refuses what only looks like a number, keys that are rows,
  and the parts of a query.
-/
import DocStore.Failure
import DocStore.Number.Decimal

namespace DocStore.Json

/-- One character inside a JSON string. -/
def escapeChar (c : Char) : List Char :=
  if c = '\x22' ∨ c = '\\' then ['\\', c]
  else if c = '\n' then ['\\', 'n']
  else if c = '\r' then ['\\', 'r']
  else if c = '\t' then ['\\', 't']
  else if c.toNat < 32 then '\\' :: 'u' :: Text.hexDigits 4 c.toNat
  else [c]

/-- A text as a JSON string. -/
def quoted (s : String) : String :=
  "\"" ++ String.ofList (s.toList.flatMap escapeChar) ++ "\""

/-- The text of a simple value; none for what is no simple value. -/
def simple? : Value → Option String
  | .null => some "null"
  | .bool b => some (if b then "true" else "false")
  | .int n => some (toString n)
  | .double d => some d.toText
  | .infinity negative => some (if negative then "-Infinity" else "Infinity")
  | .nan => some "NaN"
  | _ => none

/-- A key of an object as text: a simple value by its own text. -/
def keyText? : Value → Option String
  | .text s => some s
  | key => simple? key

mutual

/-- The JSON text of a value; a part of a query is written as null. -/
def write : Value → String
  | .text s => quoted s
  | .list items => "[" ++ ",".intercalate (writeItems items) ++ "]"
  | .tuple items => "[" ++ ",".intercalate (writeItems items) ++ "]"
  | .object fields => "\x7b" ++ ",".intercalate (writeFields fields) ++ "\x7d"
  | .keyed key v => "\x7b" ++ quoted ((keyText? key).getD "null") ++ ":" ++ write v ++ "\x7d"
  | v => (simple? v).getD "null"

/-- The JSON texts of the elements of a list. -/
def writeItems : List Value → List String
  | [] => []
  | v :: rest => write v :: writeItems rest

/-- The JSON texts of the fields of an object. -/
def writeFields : List (String × Value) → List String
  | [] => []
  | (k, v) :: rest => (quoted k ++ ":" ++ write v) :: writeFields rest

end

mutual

/-- The value as JSON data that can be sent. -/
def plain : Value → Except Failure Value
  | .list items => return .list (← plainItems items)
  | .tuple items => return .list (← plainItems items)
  | .object fields => return .object (← plainFields fields)
  | .keyed key v => do
    match key with
    | .infinity _ => throw .badText
    | .nan => throw .badText
    | _ =>
      match keyText? key with
      | some k => return .object [(k, ← plain v)]
      | none => throw .wrongKind
  | .infinity _ => throw .badText
  | .nan => throw .badText
  | .condition .. => throw .wrongKind
  | .group .. => throw .wrongKind
  | .sortKey .. => throw .wrongKind
  | v => return v

/-- The elements of a list as JSON data. -/
def plainItems : List Value → Except Failure (List Value)
  | [] => .ok []
  | v :: rest => do
    let w ← plain v
    return w :: (← plainItems rest)

/-- The fields of an object as JSON data. -/
def plainFields : List (String × Value) → Except Failure (List (String × Value))
  | [] => .ok []
  | (k, v) :: rest => do
    let w ← plain v
    return (k, w) :: (← plainFields rest)

end

example : write (.object [("a", .list [.int 1, .null])]) = "\x7b\"a\":[1,null]\x7d" := by
  decide +kernel

end DocStore.Json
