/-
  Documents inside and outside the store.

  The store knows a document by `_id`, guards it by its revision `_rev`, and in a shared database
  finds its model in a discriminator field, the `tag`.  Callers see `id` and neither of the others.

  Going in, `encode` builds the document to insert, `changes` what an update may write, and
  `overlay` the document that replaces a stored one.  Going out, `decode` hides what is the store's,
  `restore` brings back what a renaming of fields dropped, and `project` keeps the fields asked for.
-/
import DocStore.Value.Access

namespace DocStore.Document

/-- The field that tells models apart in a shared database, and the model it names there. -/
structure Tag where
  field : String
  model : Value
  deriving Repr, Inhabited

/-- Whether a value given as an identifier says nothing. -/
def isVacant : Value → Bool
  | .null => true
  | .text s => s.isEmpty
  | _ => false

/-- The document with its identifier under `_id`: one that is there stays, otherwise the caller's
    `id` is taken over as text, and without either there is none. -/
def settleIdentifier (o : Object) : Object :=
  let logical := Object.getD o "id"
  let rest := Object.erase o "id"
  if (Object.getD rest "_id").truthy then rest
  else if isVacant logical then Object.erase rest "_id"
  else Object.set rest "_id" (.text logical.written)

/-- The document to insert, from the caller's fields and their renamed form.  Renamed fields win,
    and fields that were renamed away are kept.  The revision is not the caller's to give. -/
def encode (data renamed : Object) (tag : Option Tag) : Object :=
  let settled := settleIdentifier (Object.erase (Object.merge data renamed) "_rev")
  match tag with
  | some t => Object.set settled t.field t.model
  | none => settled

/-- Whether a discriminator field is given and is this one.  An empty name is no field. -/
def isTagField (tagField : Option String) (key : String) : Bool :=
  match tagField with
  | some field => field ≠ "" && field = key
  | none => false

/-- What an update may write: all but identity, revision and discriminator, which belong to the
    stored document. -/
def changes (renamed : Object) (tagField : Option String) : Object :=
  Object.keepKeys
    (fun key => key ≠ "_id" && key ≠ "_rev" && key ≠ "id" && !isTagField tagField key) renamed

/-- A stored document overlaid with changes; its identifier and revision stay. -/
def overlay (stored changes : Object) : Except Failure Object :=
  match Object.get? stored "_id" with
  | none => .error .missingKey
  | some id =>
    let merged := Object.set (Object.merge stored changes) "_id" id
    match Object.get? stored "_rev" with
    | some rev => .ok (Object.set merged "_rev" rev)
    | none => .ok merged

/-- A stored document as callers see it: without revision and discriminator, and with `id` for
    `_id`. -/
def decode (stored : Object) (tagField : Option String) : Object :=
  let visible :=
    Object.keepKeys (fun key => key ≠ "_rev" && key ≠ "_id" && !isTagField tagField key) stored
  match Object.get? stored "_id" with
  | some id => Object.set visible "id" id
  | none => visible

/-- Brings back one field: it is set where the renamed document has none or null. -/
def restoreField (o : Object) (field : String × Value) : Object :=
  if (Object.getD o field.1).isNull then Object.set o field.1 field.2 else o

/-- The renamed document with the fields of the stored one that it lacks. -/
def restore (renamed stored : Object) : Object :=
  let wanted := Object.keepKeys (fun key => key ≠ "_id" && key ≠ "_rev" && key ≠ "id") stored
  let restored := wanted.foldl restoreField renamed
  match Object.get? stored "id" with
  | some id => restoreField restored ("id", id)
  | none => restored

/-- The keys among what is asked for, all of which has to be something that can be a key. -/
def wantedKeys (select : Value) : Except Failure (List String) := do
  let wanted ← select.elements
  if wanted.all Value.isKey then
    return wanted.filterMap fun v => match v with | .text s => some s | _ => none
  else throw .wrongKind

/-- The fields asked for and `id`; nothing asked for means all. -/
def project (o : Object) (select : Value) : Except Failure Object :=
  if select.truthy then do
    let wanted ← wantedKeys select
    return Object.keepKeys (fun key => key = "id" || wanted.contains key) o
  else return o

end DocStore.Document
