/-
  Operations that write: create, update and delete, one document or all that match.

  Every write names the revision that was read just before it, so a write that comes too late is
  refused and nobody's write is lost.  What happens then depends on the operation.

  * `create` inserts; when the identifier is taken it removes what holds it and inserts once more.
  * `update` reads, overlays and writes; after a conflict it does all three once more, and a second
    conflict is its failure.
  * `updateMany` does so for every match on its own and skips those that conflict.
  * `delete` takes a document that is gone for deleted.
  * `deleteMany` skips those that are gone.

  A document of another model is never updated or deleted, even when it is named by its identifier.
  Only `create` replaces one, and says so in the log whatever the settings are.
-/
import DocStore.Session.Scan

namespace DocStore.Session

/-! ## Creating -/

/-- Inserts a document and reads it back. -/
def insertAndRead (home : Home) (document : Object) : Program Value := do
  let receipt ← Program.send (.insert home.database document)
  Program.send (.get home.database (.text receipt.id))

/-- Removes the document that holds an identifier. -/
def evict (home : Home) (id existing : Value) : Program Unit := do
  if ← home.owns existing then pure ()
  else
    let held := Object.getD (← existing.fields) (home.tagField.getD "")
    Program.note .adapter .warning
      ("[create] id " ++ id.written ++ " held a " ++ held.shown ++
        " document, replacing it with " ++ home.model.shown)
  let existingId ← existing.entry "_id"
  Program.send (.destroy home.database existingId (← revisionOf existing))

/-- Removes whatever holds the identifier of a document and inserts the document once more. -/
def replace (home : Home) (document : Object) : Program Value := do
  let id := Object.getD document "_id"
  let lookUp : Program (Option Value) := do return some (← Program.send (.get home.database id))
  match ← lookUp.onRefusal .notFound (return none) with
  | some existing => evict home id existing
  | none => pure ()
  insertAndRead home document

/-- The fields of a new document.  A row of pairs will not do, but a fault in one comes first. -/
def newFields (data : Value) : Except Failure Object := do
  let _ ← Entries.ofValue data
  data.mapping

/-- Creates a document.  If its identifier is taken, the document that holds it is replaced. -/
def create (s : Session) (model data select : Value) : Program Value := do
  let home ← s.home model
  let fields ← (newFields data : Except Failure Object)
  let renamed ← (s.schema.stored model (.ofObject fields) : Except Failure Object)
  let document := Document.encode fields renamed home.tag
  s.note .create .debug
    ("model=" ++ model.written ++ " db=" ++ home.database.written ++ " doc=" ++
      (Value.object document).shown)
  let created ← s.guarded .create model <|
    (insertAndRead home document).handle fun e =>
      let id := Object.getD document "_id"
      if e.isRefusal .conflict && id.truthy then do
        s.note .create .warning ("id " ++ id.written ++ " already exists, replacing it")
        replace home document
      else .fail e
  s.output home model select created

/-! ## Updating -/

/-- Reads a document, overlays it with changes and writes it back under the revision read.  None if
    the document is another model's. -/
def amend (home : Home) (id : Value) (changes : Object) : Program (Option Value) := do
  let existing ← Program.send (.get home.database id)
  if ← home.owns existing then
    let stored ← match existing with
      | .object fields => pure fields
      | _ => Program.fail .wrongKind
    let merged ← (Document.overlay stored changes : Except Failure Object)
    let receipt ← Program.send (.insert home.database merged)
    return some (.object (Object.set merged "_rev" (.text receipt.revision)))
  else return none

/-- The failure of an update that finds no document. -/
def nothingToUpdate (model : Value) : Failure :=
  .refuse .notFound ("Document not found for update in model " ++ model.written) .null

/-- What an update may write of a caller's data: an object, or a row of pairs. -/
def changesOf (s : Session) (home : Home) (model data : Value) : Except Failure Object := do
  let renamed ← s.schema.stored model (← Entries.ofValue data)
  return Document.changes renamed home.tagField

/-- Updates the first document that matches and answers it as it is then. -/
def update (s : Session) (model filter data : Value) : Program Value := do
  let home ← s.home model
  let filter ← (s.schema.filter model filter : Except Failure Filter)
  let changes ← (s.changesOf home model data : Except Failure Object)
  let updated ← s.guarded .update model do
    let target ← s.target home filter
    s.note .update .debug
      ("model=" ++ model.written ++ " id=" ++ target.getD "None" ++ " changes=" ++
        (Value.object changes).shown)
    match target with
    | none => .fail (nothingToUpdate model)
    | some id =>
      let attempt := amend home (.text id) changes
      let outcome ← attempt.onRefusal .conflict do
        s.note .update .warning ("conflict on " ++ id ++ ", retrying once with a fresh read")
        attempt
      match outcome with
      | none => .fail (nothingToUpdate model)
      | some document => return document
  s.output home model .null updated

/-- Updates documents one after the other and counts those written. -/
def amendAll (s : Session) (home : Home) (changes : Object) : Nat → List Value → Program Nat
  | count, [] => return count
  | count, doc :: rest => do
    let attempt : Program (Option Value) := do amend home (← doc.entry "_id") changes
    let outcome ← attempt.onRefusal .conflict do
      s.note .updateMany .warning
        ("conflict on " ++ (← doc.entry "_id").written ++ ", skipping")
      return none
    amendAll s home changes (if outcome.isSome then count + 1 else count) rest

/-- Updates all documents that match and answers how many were written. -/
def updateMany (s : Session) (model filter data : Value) : Program Value := do
  let home ← s.home model
  let filter ← (s.schema.filter model filter : Except Failure Filter)
  let selector ← s.selector home filter
  let changes ← (s.changesOf home model data : Except Failure Object)
  s.note .updateMany .debug
    ("model=" ++ model.written ++ " selector=" ++ selector.shown ++ " changes=" ++
      (Value.object changes).shown)
  let count ← s.guarded .updateMany model do
    amendAll s home changes 0 (← s.collect home.database (.whole selector))
  s.note .updateMany .debug ("model=" ++ model.written ++ " updated=" ++ toString count)
  return .int count

/-! ## Deleting -/

/-- Reads a document and removes it, if it is the model's own; says whether it did. -/
def remove (s : Session) (home : Home) (id : String) : Program Bool := do
  let doc ← Program.send (.get home.database (.text id))
  if ← home.owns doc then
    let docId ← doc.entry "_id"
    Program.send (.destroy home.database docId (← revisionOf doc))
    return true
  else
    s.note .delete .debug (id ++ " belongs to another model")
    return false

/-- Deletes the first document that matches.  That there is none is no failure. -/
def delete (s : Session) (model filter : Value) : Program Value := do
  let home ← s.home model
  let filter ← (s.schema.filter model filter : Except Failure Filter)
  let removed ← s.guarded .delete model do
    match ← s.target home filter with
    | none =>
      s.note .delete .debug ("model=" ++ model.written ++ " nothing to delete")
      return none
    | some id =>
      let removed ← (remove s home id).onRefusal .notFound do
        s.note .delete .debug (id ++ " already gone")
        return false
      return if removed then some id else none
  match removed with
  | some id => s.note .delete .debug ("model=" ++ model.written ++ " deleted " ++ id)
  | none => pure ()
  return .null

/-- Removes documents one after the other and counts those removed. -/
def removeAll (s : Session) (home : Home) : Nat → List Value → Program Nat
  | count, [] => return count
  | count, doc :: rest => do
    let attempt : Program Bool := do
      let id ← doc.entry "_id"
      Program.send (.destroy home.database id (← revisionOf doc))
      return true
    let removed ← attempt.onRefusal .notFound do
      s.note .deleteMany .warning ((← doc.entry "_id").written ++ " already gone, skipping")
      return false
    removeAll s home (if removed then count + 1 else count) rest

/-- Deletes all documents that match and answers how many were removed. -/
def deleteMany (s : Session) (model filter : Value) : Program Value := do
  let home ← s.home model
  let filter ← (s.schema.filter model filter : Except Failure Filter)
  let selector ← s.selector home filter
  s.note .deleteMany .debug ("model=" ++ model.written ++ " selector=" ++ selector.shown)
  let count ← s.guarded .deleteMany model do
    removeAll s home 0 (← s.collect home.database (.whole selector))
  s.note .deleteMany .debug ("model=" ++ model.written ++ " deleted=" ++ toString count)
  return .int count

end DocStore.Session
