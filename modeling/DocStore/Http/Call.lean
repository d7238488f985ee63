/-
  Calls: what a request to a store looks like over HTTP, wherever the server is.

  A database is a segment of the path and a document a second one below it.  Both names are in
  percent coding, so that whatever they hold, they stay within their segment.  A query is posted
  below its database.  A write of a document goes to the document, or to the database if it brings
  no identifier.  The revision of a removal stands in the query of the address.

  A call that cannot be made, because a name or an identifier is no text or the wanted fields are no
  row, fails before anything is sent.
-/
import DocStore.Http.Percent
import DocStore.Store.Request
import DocStore.Value.Access

namespace DocStore.Http

/-- The method of a call. -/
inductive Method where
  | head | get | put | post | delete
  deriving DecidableEq, Repr, Inhabited

/-- The name of a method. -/
def Method.name : Method → String
  | .head => "HEAD"
  | .get => "GET"
  | .put => "PUT"
  | .post => "POST"
  | .delete => "DELETE"

/-- A call: method and path, the query if there is one, and the body. -/
structure Call where
  method : Method
  path : List Char
  query : Option (List Char)
  body : Option Value
  deriving Repr, Inhabited

/-! ## Paths -/

/-- The path of a database. -/
def databasePath (database : String) : List Char := '/' :: encodeSegment database

/-- The path of a document. -/
def documentPath (database id : String) : List Char :=
  databasePath database ++ '/' :: encodeSegment id

/-- The path to which queries are posted. -/
def queryPath (database : String) : List Char := databasePath database ++ "/_find".toList

/-! ## Queries of addresses -/

/-- A single value in the query of an address. -/
def parameterText : Value → String
  | .bool b => if b then "true" else "false"
  | .null => ""
  | v => v.written

/-- The revision in the query of an address, once for each element if it is a row. -/
def revisionQuery (revision : Value) : List Char :=
  let values :=
    match revision with
    | .list items => items
    | .tuple items => items
    | v => [v]
  ['&'].intercalate (values.map fun v => "rev=".toList ++ encodeQueryValue (parameterText v))

namespace Call

/-- A call without query and body. -/
def plain (method : Method) (path : List Char) : Call := ⟨method, path, none, none⟩

/-- A name or an identifier in the path of a call, which has to be a text. -/
def pathText : Value → Except Failure String
  | .text s => .ok s
  | _ => .error .wrongKind

/-- Asks whether a database exists. -/
def exists? (database : Value) : Except Failure Call := do
  return plain .head (databasePath (← pathText database))

/-- Creates a database. -/
def createDatabase (database : Value) : Except Failure Call := do
  return plain .put (databasePath (← pathText database))

/-- Gets a document. -/
def get (database id : Value) : Except Failure Call := do
  return plain .get (documentPath (← pathText database) (← pathText id))

/-- Stores a document. -/
def insert (database : Value) (document : Object) : Except Failure Call := do
  let database ← pathText database
  let id := Object.getD document "_id"
  if id.truthy then
    return ⟨.put, documentPath database id.written, none, some (.object document)⟩
  else return ⟨.post, databasePath database, none, some (.object document)⟩

/-- Removes a document. -/
def destroy (database id revision : Value) : Except Failure Call := do
  return ⟨.delete, documentPath (← pathText database) (← pathText id),
    some (revisionQuery revision), none⟩

/-- A field of a body that is left out if its value says nothing. -/
def telling (key : String) (v : Value) : Object := if v.truthy then [(key, v)] else []

/-- The body of a query.  Any limit but null is a limit; nothing else that says nothing is sent. -/
def queryBody (query : Query) : Except Failure Object := do
  let fields ← if query.fields.truthy then query.fields.elements else .ok []
  return ("selector", query.selector) ::
    (if query.limit.isNull then [] else [("limit", query.limit)]) ++
    telling "skip" query.skip ++ telling "sort" query.sort ++ telling "bookmark" query.bookmark ++
    telling "fields" (.list fields)

/-- Asks for a page of documents. -/
def find (database : Value) (query : Query) : Except Failure Call := do
  return ⟨.post, queryPath (← pathText database), none, some (.object (← queryBody query))⟩

end Call

example : documentPath "my db" "a/b" = "/my%20db/a%2Fb".toList := by decide +kernel

end DocStore.Http
