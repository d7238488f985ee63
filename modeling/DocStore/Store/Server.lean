/-
  A server in memory, and sessions with it.

  A server holds databases by name.  A database exists once it has been created; using its name
  gives a handle to it in any case, and the handle is the same for everyone.  The server also keeps
  the counter from which identifiers and tokens are drawn.

  Names are texts as a rule, but whatever can be a key names a database.  What cannot is refused;
  that it was tried to create a database under it is remembered all the same.

  A session adds what belongs to one client: which databases it has opened already, and its log.
  `Memory.backend` answers the requests of programs from a session.
-/
import DocStore.Store.Database
import DocStore.Store.Program
import DocStore.Value.Entries

namespace DocStore

/-- A server. -/
structure Server where
  databases : Entries Database
  created : List Value
  createCalls : List Value
  draws : Nat
  sortable : Option (List Value)
  defaultLimit : Value
  deriving Repr, Inhabited

namespace Server

/-- The number of documents on a page when a query sets no limit. -/
def standardLimit : Value := .int 25

/-- A server without databases. -/
def empty (sortable : Option (List Value)) (defaultLimit : Value) : Server :=
  ⟨[], [], [], 0, sortable, defaultLimit⟩

/-- The fields by which a server sorts, as a caller gives them: all if null, else the elements of a
    value, which have to be what can be keys. -/
def sortableOf (v : Value) : Except Failure (Option (List Value)) :=
  if v.isNull then .ok none
  else do
    let fields ← v.elements
    if fields.all Value.isKey then return some fields else throw .wrongKind

/-- The database of a name, which is empty if nobody has used it. -/
def database (server : Server) (name : Value) : Database :=
  (server.databases.get? name).getD .empty

/-- Replaces a database. -/
def setDatabase (server : Server) (name : Value) (db : Database) : Server :=
  { server with databases := server.databases.put name db }

/-- Makes sure that there is a handle for a name. -/
def use (server : Server) (name : Value) : Server := server.setDatabase name (server.database name)

/-- Whether a database has been created. -/
def exists? (server : Server) (name : Value) : Bool := server.created.any fun v => v.same name

/-- The names of the databases that have been created, in order, if they have one. -/
def databaseNames (server : Server) : Except Failure (List Value) :=
  if Entries.haveOrder server.created then .ok (Entries.inOrder server.created)
  else .error .wrongKind

/-- Creates a database. -/
def create (server : Server) (name : Value) : Except Failure Unit × Server :=
  let called := { server with createCalls := server.createCalls ++ [name] }
  if !name.isKey then (.error .wrongKind, called)
  else if called.exists? name then
    (.error (.refuse .databaseExists (Refused.messageOf .databaseExists) .null), called)
  else (.ok (), { called with created := called.created ++ [name] }.use name)

/-- Gets a document. -/
def get (server : Server) (name id : Value) : Except Failure Value :=
  (server.database name).get id

/-- Inserts a document. -/
def insert (server : Server) (name : Value) (document : Object) :
    Except Failure Receipt × Server :=
  let (answer, db, draws) := (server.database name).insert document server.draws
  (answer, { server.setDatabase name db with draws := draws })

/-- Removes a document. -/
def destroy (server : Server) (name id revision : Value) :
    Except Failure Unit × Server :=
  let (answer, db) := (server.database name).destroy id revision
  (answer, server.setDatabase name db)

/-- Answers a query. -/
def find (server : Server) (name : Value) (query : Query) : Except Failure Page × Server :=
  let (answer, db) := (server.database name).find server.sortable server.defaultLimit query
  (answer, server.setDatabase name db)

/-- Forgets the documents and queries of a database. -/
def clearDatabase (server : Server) (name : Value) : Server := server.setDatabase name .empty

/-- Forgets all databases; the counter goes on. -/
def clear (server : Server) : Server :=
  { server with databases := [], created := [], createCalls := [] }

/-- The number of documents in all databases. -/
def size (server : Server) : Nat :=
  server.databases.foldr (fun entry n => entry.2.documents.length + n) 0

/-- The current revision of a document as text, or the revision that no document has. -/
def revisionOf (server : Server) (name : Value) (id : String) : String :=
  match (server.database name).documents.get? id with
  | some d => d.revision.text
  | none => "0-none"

end Server

/-- A session with a server in memory. -/
structure Memory where
  server : Server
  opened : List Value
  log : List LogEntry
  deriving Repr, Inhabited

namespace Memory

/-- A session that has not opened anything yet. -/
def start (server : Server) : Memory := ⟨server, [], []⟩

/-- Answers a request. -/
def answer : (request : Request) → Memory → Except Failure request.Answer × Memory
  | .exists name, m =>
    (if name.isKey then .ok (m.server.exists? name) else .error .wrongKind, m)
  | .createDatabase name, m =>
    let (answer, server) := m.server.create name
    (answer, { m with server := server })
  | .get name id, m => (m.server.get name id, m)
  | .insert name document, m =>
    let (answer, server) := m.server.insert name document
    (answer, { m with server := server })
  | .destroy name id revision, m =>
    let (answer, server) := m.server.destroy name id revision
    (answer, { m with server := server })
  | .find name query, m =>
    let (answer, server) := m.server.find name query
    (answer, { m with server := server })
  | .isOpen name, m => (.ok (m.opened.any fun v => v.same name), m)
  | .openDatabase name, m =>
    (.ok (), { m with server := m.server.use name, opened := m.opened ++ [name] })

/-- Takes a log entry. -/
def note (entry : LogEntry) (m : Memory) : Memory := { m with log := m.log ++ [entry] }

/-- The backend of a session in memory. -/
def backend : Backend Memory := ⟨answer, note⟩

end Memory

end DocStore
