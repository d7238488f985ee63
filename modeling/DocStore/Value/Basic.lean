/-
  Values: whatever a caller may hand in, a document may hold, or a store may answer.

  Most values are plain data: null, booleans, unbounded integers, doubles, texts, lists and objects.
  An object keeps its fields in the order in which they were set, because selectors are evaluated,
  and messages printed, in that order.  A reply may also hold the infinities and what is no number.

  Beside data there are fixed rows (`tuple`, as opposed to `list`) and the ready-made parts of a
  query that may stand wherever data may: a condition, a group of conditions, a sort key.  Nothing
  keeps a caller from naming a field in them by something else than a text.  A selector for such a
  field is an object with that one key (`keyed`).

  `Object` is the list of an object's fields with the operations of a dictionary: a key that is set
  again keeps its place and gets the new value; a new key goes to the end.
-/
import DocStore.Operator
import DocStore.Number.Double

namespace DocStore

/-- A datum. -/
inductive Value where
  | null
  | bool (b : Bool)
  | int (n : Int)
  | double (d : Double)
  | infinity (negative : Bool)
  | nan
  | text (s : String)
  | list (items : List Value)
  | tuple (items : List Value)
  | object (fields : List (String × Value))
  | keyed (key value : Value)
  | condition (field value : Value) (operator : Operator) (connector : Connector)
  | group (kind : Connector) (members : List Value)
  | sortKey (field : Value) (descending : Bool)
  deriving Repr, Inhabited

/-- The fields of an object, in order. -/
abbrev Object := List (String × Value)

namespace Object

/-- The value of a key. -/
def get? : Object → String → Option Value
  | [], _ => none
  | (k, v) :: rest, key => if k = key then some v else get? rest key

/-- The value of a key, or null. -/
def getD (o : Object) (key : String) : Value := (get? o key).getD .null

/-- Whether a key is set. -/
def has (o : Object) (key : String) : Bool := (get? o key).isSome

/-- Sets a key: in its place if it is there, at the end if it is new. -/
def set : Object → String → Value → Object
  | [], key, value => [(key, value)]
  | (k, v) :: rest, key, value =>
    if k = key then (k, value) :: rest else (k, v) :: set rest key value

/-- Removes a key. -/
def erase : Object → String → Object
  | [], _ => []
  | (k, v) :: rest, key => if k = key then rest else (k, v) :: erase rest key

/-- Sets the given keys one after the other. -/
def merge (o : Object) (changes : Object) : Object :=
  changes.foldl (fun acc (field : String × Value) => acc.set field.1 field.2) o

/-- The object in which the given keys have been set one after the other. -/
def ofFields (fields : List (String × Value)) : Object := merge [] fields

/-- The keys, in order. -/
def keys (o : Object) : List String := o.map (·.1)

/-- The fields whose key satisfies `p`. -/
def keepKeys (p : String → Bool) (o : Object) : Object := o.filter fun field => p field.1

/-! ## What each operation does to the lookup

  `get?` is the view of an object: two lemmas say what a write does to it, the one for the key
  written and the one for every other key. -/

@[simp] theorem get?_set_self (o : Object) (key : String) (v : Value) :
    (o.set key v).get? key = some v := by
  induction o with
  | nil => simp [set, get?]
  | cons field rest ih =>
    by_cases h : field.1 = key
    · simp [set, get?, h]
    · simp [set, get?, h, ih]

theorem get?_set_ne (o : Object) {key other : String} (v : Value) (h : key ≠ other) :
    (o.set key v).get? other = o.get? other := by
  induction o with
  | nil => simp [set, get?, h]
  | cons field rest ih => grind [set, get?]

theorem get?_set (o : Object) (key other : String) (v : Value) :
    (o.set key v).get? other = if key = other then some v else o.get? other := by
  by_cases h : key = other
  · simp [h]
  · simp [h, get?_set_ne o v h]

theorem get?_erase_ne (o : Object) {key other : String} (h : key ≠ other) :
    (o.erase key).get? other = o.get? other := by
  induction o with
  | nil => rfl
  | cons field rest ih => grind [erase, get?]

/-- A key that is set again keeps its place; a new key goes to the end. -/
theorem keys_set (o : Object) (key : String) (v : Value) :
    (o.set key v).keys = if key ∈ o.keys then o.keys else o.keys ++ [key] := by
  induction o with
  | nil => simp [set, keys]
  | cons field rest ih => grind [set, keys]

end Object

namespace Value

/-- Whether a value counts as present.  Null, false, zero, and whatever is empty do not; everything
    else does. -/
def truthy : Value → Bool
  | .null => false
  | .bool b => b
  | .int n => n ≠ 0
  | .double d => !d.isZero
  | .text s => !s.isEmpty
  | .list items => !items.isEmpty
  | .tuple items => !items.isEmpty
  | .object fields => !fields.isEmpty
  | _ => true

/-- Whether the value is null. -/
def isNull : Value → Bool
  | .null => true
  | _ => false

/-- A number read from text. -/
def ofExtended : Extended → Value
  | .finite d => .double d
  | .infinity negative => .infinity negative
  | .nan => .nan

/-- An object with a single field, whose key may be any value. -/
def single (key value : Value) : Value :=
  match key with
  | .text s => .object [(s, value)]
  | key => .keyed key value

/-- A list of texts. -/
def ofTexts (texts : List String) : Value := .list (texts.map .text)

/-- The finite number that a value counts as, in units of the smallest positive double: an integer
    or a double its value, a boolean one or zero. -/
def units? : Value → Option Int
  | .bool b => some (if b then Double.unitsPerOne else 0)
  | .int n => some (n * Double.unitsPerOne)
  | .double d => some d.units
  | _ => none

end Value

end DocStore
