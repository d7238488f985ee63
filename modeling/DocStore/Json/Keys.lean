/-
  Entries as objects of an answer.

  In an answer the keys of an object stand in order, as texts.  Keys that are all numbers have an
  order of their own and are written like the numbers they are; so is a single key of any simple
  kind.  Keys of different kinds have no order together, and then there is no answer.
-/
import DocStore.Json.Writer
import DocStore.Value.Entries

namespace DocStore.Json

/-- Entries with their keys as texts, if all of them have one. -/
def keyedByText? : Entries Value → Option Object
  | [] => some []
  | (key, v) :: rest => do
    let k ← keyText? key
    return (k, v) :: (← keyedByText? rest)

/-- Entries as an object of an answer. -/
def objectOf (entries : Entries Value) : Except Failure Value :=
  match keyedByText? entries with
  | some fields =>
    if Entries.haveOrder (entries.map (·.1)) then .ok (.object fields) else .error .mixedKeys
  | none => .error .mixedKeys

example : (objectOf [(.int 5, .null)]).toOption = some (.object [("5", .null)]) := by rfl
example : (objectOf [(.int 5, .null), (.text "a", .null)]).toOption = none := by rfl

end DocStore.Json
