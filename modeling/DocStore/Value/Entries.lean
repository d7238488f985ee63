/-
  Entries under keys of any kind.

  Most tables have texts for keys, but a caller may give any value that can be one.  Two keys are
  one key when they have the same content, so the number one, the double and true are one key.  As
  with objects, a key that is entered again keeps its place and its first spelling and gets the new
  value.

  `ofValue` reads entries from an object or a row of pairs.  Read as an object again (`toObject?`),
  entries need texts for keys.  Keys of one kind have an order (`haveOrder`); texts and numbers are
  never in one order together.

  The two lemmas about `put` say what it does to the lookup of texts.
-/
import DocStore.Value.Access
import DocStore.Value.Equality

namespace DocStore

/-- Entries under keys of any kind, in the order in which they were entered. -/
abbrev Entries (α : Type) := List (Value × α)

namespace Entries

variable {α : Type}

/-- The entry under a key. -/
def get? : Entries α → Value → Option α
  | [], _ => none
  | (k, a) :: rest, key => if k.same key then some a else get? rest key

/-- Enters a key: in its place if it is there, at the end if it is new. -/
def put : Entries α → Value → α → Entries α
  | [], key, a => [(key, a)]
  | (k, b) :: rest, key, a => if k.same key then (k, a) :: rest else (k, b) :: put rest key a

/-- The entries made by entering keys one after the other. -/
def ofPairs (pairs : List (Value × α)) : Entries α :=
  pairs.foldl (fun acc pair => acc.put pair.1 pair.2) []

example : get? (ofPairs [(.int 1, 'a'), (.bool true, 'b')]) (.int 1) = some 'b' := by decide +kernel

/-- The fields of an object as entries. -/
def ofObject (o : Object) : Entries Value := o.map fun field => (.text field.1, field.2)

/-- The entries as fields of an object, if all keys are texts. -/
def toObject? : Entries Value → Option Object
  | [] => some []
  | (.text key, v) :: rest => (toObject? rest).map ((key, v) :: ·)
  | _ :: _ => none

@[simp] theorem toObject?_ofObject (o : Object) : toObject? (ofObject o) = some o := by
  induction o with
  | nil => rfl
  | cons field rest ih =>
    have h : ofObject (field :: rest) = (.text field.1, field.2) :: ofObject rest := rfl
    simp [h, toObject?, ih]

/-! ## Reading -/

/-- Reads a pair: a row of two whose first can be a key. -/
def readPair (v : Value) : Except Failure (Value × Value) := do
  match ← v.elements with
  | [key, value] => if key.isKey then return (key, value) else throw .wrongKind
  | _ => throw .badText

/-- Reads pairs one after the other. -/
def readPairs : List Value → Except Failure (List (Value × Value))
  | [] => .ok []
  | v :: rest => do
    let pair ← readPair v
    return pair :: (← readPairs rest)

/-- Reads entries from an object or a row of pairs. -/
def ofValue : Value → Except Failure (Entries Value)
  | .object fields => .ok (ofObject fields)
  | .keyed key value => .ok [(key, value)]
  | v => do return ofPairs (← readPairs (← v.elements))

example : (ofValue (.list [.text "ab"])).toOption = some [(.text "a", .text "b")] := by rfl

/-! ## Orders of keys -/

/-- Whether a key is a text. -/
def isText : Value → Bool
  | .text _ => true
  | _ => false

/-- Whether keys can be put in order: all are texts or all are numbers, unless there is only one. -/
def haveOrder (keys : List Value) : Bool :=
  keys.length ≤ 1 || keys.all isText || keys.all fun key => key.units?.isSome

/-- Keys in their order. -/
def inOrder (keys : List Value) : List Value :=
  keys.mergeSort fun a b => (Value.order? a b).getD .eq ≠ .gt

/-! ## What entering does to the lookup of texts -/

theorem same_text_iff {v : Value} {s : String} : v.same (.text s) = true ↔ v = .text s := by
  cases v with
  | text t => simp [Value.same]
  | _ => exact iff_of_false (fun h => Bool.false_ne_true h) (fun h => Value.noConfusion h)

/-- What has just been entered under a text is found there. -/
theorem get?_put_text (t : Entries α) (name : String) (a : α) :
    (t.put (.text name) a).get? (.text name) = some a := by
  induction t with
  | nil => simp [put, get?, same_text_iff]
  | cons entry rest ih =>
    obtain ⟨k, b⟩ := entry
    by_cases h : k.same (.text name) = true
    · simp [put, get?, h]
    · simp [put, get?, h, ih]

end Entries

end DocStore
