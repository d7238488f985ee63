/-
  A server in memory on which things go wrong as told.

  Each database has a set of troubles: reads that find nothing, inserts that are refused, writes by
  another client that come in between, documents that vanish just before they are deleted, documents
  that cannot be saved, queries that fail, and pages without a bookmark.  Troubles with a count are
  used up.  A race for a database can be set up too: then no database ever seems to exist, and
  creating one always comes too late.

  Everything that no trouble touches is answered by the session underneath, so without troubles and
  without a race this backend is that of the session.
-/
import DocStore.Store.Server

namespace DocStore

/-- The troubles of a database. -/
structure Troubles where
  lostReads : Int
  conflictInserts : Int
  interleavedWrites : Int
  failingFinds : Int
  failing : List Value
  vanishing : List Value
  noBookmark : Bool
  deriving Repr, Inhabited

namespace Troubles

/-- No troubles. -/
def none : Troubles := ⟨0, 0, 0, 0, [], [], false⟩

end Troubles

/-- A session with a server in memory that has troubles. -/
structure Troubled where
  memory : Memory
  troubles : Entries Troubles
  racing : Bool
  deriving Repr, Inhabited

namespace Troubled

/-- The troubles of a database. -/
def of (t : Troubled) (name : Value) : Troubles := (t.troubles.get? name).getD .none

/-- Sets the troubles of a database. -/
def set (t : Troubled) (name : Value) (troubles : Troubles) : Troubled :=
  { t with troubles := t.troubles.put name troubles }

/-- Hands a request on to the session underneath. -/
def pass (request : Request) (t : Troubled) : Except Failure request.Answer × Troubled :=
  let (answer, memory) := Memory.answer request t.memory
  (answer, { t with memory := memory })

/-- Removes the first occurrence of a value. -/
def dropValue (v : Value) : List Value → List Value
  | [] => []
  | w :: rest => if w.same v then rest else w :: dropValue v rest

/-- Whether a value is in a row. -/
def isIn (v : Value) (vs : List Value) : Bool := vs.any fun w => w.same v

/-- The refusal of a request by a server that is out of order. -/
def outOfOrder (message code : String) : Failure :=
  .refused ⟨.general, message, .int 500, .text code, .null⟩

/-- Gets a document, if the read is not lost. -/
def get (name : Value) (id : Value) (t : Troubled) : Except Failure Value × Troubled :=
  let troubles := t.of name
  if 0 < troubles.lostReads then
    (.error (.refuse .notFound "Lost read" .null),
      t.set name { troubles with lostReads := troubles.lostReads - 1 })
  else pass (.get name id) t

/-- A write by another client to the document under an identifier. -/
def interfere (name : Value) (id : Value) (t : Troubled) : Except Failure Unit × Troubled :=
  match t.memory.server.get name id with
  | .ok (.object fields) =>
    let touched := Object.set fields "touched_by" (.text "other-writer")
    match pass (.insert name touched) t with
    | (.ok _, t') => (.ok (), t')
    | (.error e, t') => (.error e, t')
  | .ok _ => (.ok (), t)
  | .error e => (.error e, t)

/-- Inserts a document, if it is not refused, after a write of another client, if one comes in
    between.  Only a document that brings an identifier can be interfered with. -/
def insert (name : Value) (document : Object) (t : Troubled) :
    Except Failure Receipt × Troubled :=
  let troubles := t.of name
  if 0 < troubles.conflictInserts then
    (.error (.refuse .conflict "Forced conflict" .null),
      t.set name { troubles with conflictInserts := troubles.conflictInserts - 1 })
  else if (Object.getD document "_rev").truthy then
    let id := Object.getD document "_id"
    if isIn id troubles.failing then
      (.error (outOfOrder "PUT failed" "internal_server_error"), t)
    else if 0 < troubles.interleavedWrites then
      let counted :=
        t.set name { troubles with interleavedWrites := troubles.interleavedWrites - 1 }
      if Object.has document "_id" then
        match interfere name id counted with
        | (.ok _, t') => pass (.insert name document) t'
        | (.error e, t') => (.error e, t')
      else (.error .missingKey, counted)
    else pass (.insert name document) t
  else pass (.insert name document) t

/-- Deletes the stored document under an identifier, whatever its revision. -/
def vanish (name : Value) (id : Value) (t : Troubled) : Except Failure Unit × Troubled :=
  match t.memory.server.get name id with
  | .ok (.object fields) => pass (.destroy name id (Object.getD fields "_rev")) t
  | .ok _ => (.ok (), t)
  | .error e => (.error e, t)

/-- Removes a document, which may vanish just before. -/
def destroy (name : Value) (id revision : Value) (t : Troubled) :
    Except Failure Unit × Troubled :=
  let troubles := t.of name
  if isIn id troubles.vanishing then
    match vanish name id (t.set name { troubles with vanishing := dropValue id troubles.vanishing })
    with
    | (.ok _, t') => pass (.destroy name id revision) t'
    | (.error e, t') => (.error e, t')
  else pass (.destroy name id revision) t

/-- Answers a query, if queries do not fail. -/
def find (name : Value) (query : Query) (t : Troubled) : Except Failure Page × Troubled :=
  let troubles := t.of name
  if 0 < troubles.failingFinds then
    (.error (outOfOrder "find failed" "boom"),
      t.set name { troubles with failingFinds := troubles.failingFinds - 1 })
  else
    match pass (.find name query) t with
    | (.ok page, t') =>
      (.ok (if troubles.noBookmark then { page with bookmark := .null } else page), t')
    | (.error e, t') => (.error e, t')

/-- Answers a request. -/
def answer : (request : Request) → Troubled → Except Failure request.Answer × Troubled
  | .exists name, t => if t.racing then (.ok false, t) else pass (.exists name) t
  | .createDatabase name, t =>
    if t.racing then
      let server :=
        { t.memory.server with createCalls := t.memory.server.createCalls ++ [name] }
      (.error (.refuse .databaseExists (Refused.messageOf .databaseExists) .null),
        { t with memory := { t.memory with server := server } })
    else pass (.createDatabase name) t
  | .get name id, t => get name id t
  | .insert name document, t => insert name document t
  | .destroy name id revision, t => destroy name id revision t
  | .find name query, t => find name query t
  | .isOpen name, t => pass (.isOpen name) t
  | .openDatabase name, t => pass (.openDatabase name) t

/-- Takes a log entry. -/
def note (entry : LogEntry) (t : Troubled) : Troubled :=
  { t with memory := t.memory.note entry }

/-- The backend of a session with troubles. -/
def backend : Backend Troubled := ⟨answer, note⟩

end Troubled

end DocStore
