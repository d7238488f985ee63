/-
  Sessions: what all operations of an adapter share.

  A session has settings, a schema, and the key under which identifiers are selected.  It also says
  how many pages an unlimited scan may ask for; a store that hands out bookmarks for ever is cut off
  there instead of being followed for ever.

  The documents of a model live in a database, its `Home`.  In a shared database they carry a tag,
  and a home can do two things with it: narrow a selector to its own documents, and tell whether a
  document is its own.  The first time a session needs a database it makes sure that it exists; that
  another client creates it in between is no failure.
-/
import DocStore.Document.Codec
import DocStore.Document.Schema
import DocStore.Failure.Kind
import DocStore.Filter.Selector
import DocStore.Settings.Basic
import DocStore.Store.Program
import DocStore.Value.Equality

namespace DocStore

/-- Where the documents of a model live. -/
structure Home where
  database : Value
  model : Value
  tagField : Option String
  deriving Repr, Inhabited

namespace Home

/-- The tag that documents of the model carry. -/
def tag (home : Home) : Option Document.Tag := home.tagField.map fun field => ⟨field, home.model⟩

/-- A selector for the model's own documents. -/
def scope (home : Home) (selector : Value) : Value :=
  match home.tagField with
  | some field => selector.scope field home.model
  | none => selector

/-- Whether a document is the model's own. -/
def owns (home : Home) (document : Value) : Except Failure Bool :=
  match home.tagField with
  | none => .ok true
  | some field => do
    let fields ← document.fields
    return Value.same (Object.getD fields field) home.model

end Home

/-- The identifier of the adapter. -/
def adapterId : String := "couchdb-adapter"

/-- The name of the adapter. -/
def adapterName : String := "CouchDB Adapter"

/-- A session of an adapter. -/
structure Session where
  settings : Settings
  schema : Schema
  idKey : Value
  pageBudget : Nat
  deriving Repr, Inhabited

namespace Session

/-! ## Diagnostics -/

/-- Writes a diagnostic entry, if the operation writes any. -/
def note (s : Session) (op : Operation) (level : Level) (message : String) : Program Unit :=
  Program.noteIf (s.settings.logs (some op)) .adapter level ("[" ++ op.name ++ "] " ++ message)

/-- Runs the part of an operation that talks to the store; a failure of the store is noted and
    passes on unchanged. -/
def guarded {α : Type} (s : Session) (op : Operation) (model : Value) (p : Program α) :
    Program α :=
  p.handle fun e =>
    if e.isStoreFailure then do
      s.note op .error ("model=" ++ model.written ++ " failed: " ++ e.shown)
      .fail e
    else .fail e

/-! ## Homes, filters and documents -/

/-- Makes sure that a database exists and opens it. -/
def openDatabase (name : Value) : Program Unit := do
  if ← Program.send (.exists name) then pure ()
  else
    let create : Program Unit := do
      Program.send (.createDatabase name)
      Program.note .resolver .debug ("Created database " ++ name.written)
    create.onRefusal .databaseExists
      (Program.note .resolver .debug ("Database " ++ name.written ++ " created concurrently"))
  Program.send (.openDatabase name)

/-- The home of a model, its database opened if need be. -/
def home (s : Session) (model : Value) : Program Home := do
  let stored ← (s.schema.modelName model : Except Failure Value)
  let name := s.settings.databaseOf stored
  if name.isKey then
    if ← Program.send (.isOpen name) then pure () else openDatabase name
    return ⟨name, stored, s.settings.sharedField⟩
  else .fail .wrongKind

/-- The selector of a filter, narrowed to a home. -/
def selector (s : Session) (home : Home) (filter : Filter) : Except Failure Value := do
  return home.scope (← filter.selector s.idKey)

/-- A stored document as callers see it. -/
def output (s : Session) (home : Home) (model select document : Value) : Except Failure Value := do
  let decoded := Document.decode (← document.fields) home.tagField
  let restored := Document.restore (← s.schema.shown model decoded) decoded
  return .object (← Document.project restored select)

/-- A query for the first document that matches. -/
def firstOnly (selector : Value) : Query := ⟨selector, .int 1, .null, .null, .null, .null⟩

/-- The identifier that a filter names, or that of the first document it matches. -/
def target (s : Session) (home : Home) (filter : Filter) : Program (Option String) := do
  match ← (filter.identifier : Except Failure (Option String)) with
  | some id => return some id
  | none => do
    let page ← Program.send (.find home.database (firstOnly (← s.selector home filter)))
    match page.docs with
    | [] => return none
    | doc :: _ => return some (← doc.entry "_id").written

/-- The revision that a document names, or the empty text. -/
def revisionOf (document : Value) : Except Failure Value := do
  return (Object.get? (← document.fields) "_rev").getD (.text "")

end Session

end DocStore
