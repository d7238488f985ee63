/-
  Dotted paths.

  A path names a field of a field of a document, its parts separated by dots.  Every dot separates,
  so the empty path names the field with the empty key, and a key that holds a dot is out of reach.
  Following a path never fails: it ends with a value, or with nothing as soon as a part is missing
  or what it is looked up in is not an object.
-/
import DocStore.Value.Basic
import DocStore.Text.Split

namespace DocStore

/-- The parts of a dotted path. -/
def pathParts (path : String) : List String := (Text.splitAt '.' path.toList).map String.ofList

namespace Value

/-- The value of a field, if the value is an object that has it. -/
def field? (v : Value) (key : String) : Option Value :=
  match v with
  | .object fields => Object.get? fields key
  | _ => none

/-- Follows the parts of a path. -/
def follow : Value → List String → Option Value
  | v, [] => some v
  | v, part :: rest => (v.field? part).bind fun w => follow w rest

/-- The value at a dotted path. -/
def at? (v : Value) (path : String) : Option Value := v.follow (pathParts path)

end Value

example : pathParts "a.b." = ["a", "b", ""] := by decide +kernel
example : pathParts "" = [""] := by decide +kernel

end DocStore
