/-
  Documents given as any data.

  The operations on documents, for callers that may hand in something else than a document: each
  says which failure that meets, and of two faults the one that comes first.  What is to be set on
  something else has to be an object; what is gone through has to have fields; a tag has to be a row
  of two, and its field has to be something that can be a key.

  A field of a tag that is no text, and keys of pairs that are none, leave a document whose keys
  need not be texts.
-/
import DocStore.Document.Codec
import DocStore.Value.Entries

namespace DocStore.Document

/-- The document to insert, with the tag that a caller gives. -/
def encodeGiven (data renamed tag : Value) : Except Failure (Entries Value) := do
  let data ← data.mapping
  let renamed ← renamed.mapping
  let untagged := Entries.ofObject (encode data renamed none)
  if tag.isNull then return untagged
  else
    match ← tag.elements with
    | [field, model] =>
      if field.isKey then return untagged.put field model else throw .wrongKind
    | _ => throw .badText

/-- The discriminator field that a caller gives.  One that says nothing is none, and one that is no
    text hides nothing. -/
def tagFieldOf (v : Value) : Except Failure (Option String) :=
  match v with
  | .text field => .ok (some field)
  | v => if v.truthy && !v.isKey then .error .wrongKind else .ok none

/-- What an update may write. -/
def changesGiven (renamed tagField : Value) : Except Failure Object := do
  let tagField ← tagFieldOf tagField
  return changes (← renamed.fields) tagField

/-- A stored document overlaid with changes. -/
def overlayGiven (stored changes : Value) : Except Failure Object := do
  let stored ← stored.mapping
  overlay stored (← changes.mapping)

/-- A stored document as callers see it. -/
def decodeGiven (stored tagField : Value) : Except Failure Object := do
  let tagField ← tagFieldOf tagField
  return decode (← stored.fields) tagField

/-- The renamed document, which may be a row of pairs, with the fields of the stored one that it
    lacks.  A key of a pair that is no text stands beside them. -/
def restoreGiven (renamed stored : Value) : Except Failure (Entries Value) := do
  let entries ← Entries.ofValue renamed
  let fields ← stored.fields
  match entries.toObject? with
  | some o => return Entries.ofObject (restore o fields)
  | none => return entries ++ Entries.ofObject (restore [] fields)

/-- The fields asked for; if nothing is, whatever was given. -/
def projectGiven (v select : Value) : Except Failure Value :=
  if select.truthy then do
    let _ ← wantedKeys select
    return .object (← project (← v.fields) select)
  else return v

end DocStore.Document
