/-
  A store at the other end of a connection.

  A call is made ready, sent to the endpoint and meets a reaction: a reply with a status and a body,
  a connection that breaks, a body that cannot be decoded, or a chain of redirects without an end.
  What the other end will do is a list of reactions, the next one for each call; when it is used up,
  the connection counts as broken.  A call that cannot be made ready is not sent.

  A reply whose status says that something went wrong is a refusal.  Its body may say what it was; a
  body that is no JSON object says nothing.  Four statuses, two of them only with the right code,
  have a meaning of their own.  Any other reply is a success, and then the body has to be what was
  asked for.

  `Remote.backend` answers the requests of programs this way.
-/
import DocStore.Http.Endpoint
import DocStore.Json.Encoding
import DocStore.Json.Writer
import DocStore.Store.Program
import DocStore.Value.Equality

namespace DocStore.Http

/-- A reply: its status and its body. -/
structure Reply where
  status : Nat
  body : String
  deriving DecidableEq, Repr, Inhabited

/-- What a call meets. -/
inductive Reaction where
  | reply (reply : Reply)
  | broken (message : String)
  | undecodable
  | tooManyRedirects
  deriving DecidableEq, Repr, Inhabited

/-- A reply and the path of the call that it answers, as messages show it. -/
structure Arrival where
  path : String
  reply : Reply
  deriving DecidableEq, Repr, Inhabited

/-- A call as it went out. -/
structure Sent where
  method : Method
  target : String
  host : Option String
  authorization : Option String
  body : Option Value
  deriving Repr, Inhabited

/-! ## Reading replies -/

namespace Reply

/-- Whether the status says that something went wrong. -/
def isError (reply : Reply) : Bool := 400 ≤ reply.status && reply.status ≤ 599

/-- The body as JSON. -/
def json (reply : Reply) : Except Failure Value :=
  match Json.charsOfBytes? (Text.Utf8.encode reply.body.toList) with
  | none => .error .garbled
  | some cs =>
    match Json.readChars cs with
    | .ok v => .ok v
    | .error .malformed => .error .badJson
    | .error .tooLong => .error .badText
    | .error .tooDeep => .error .tooDeep

/-- The fields of the body, of which there are none if it is no JSON object. -/
def fieldsOrNone (reply : Reply) : Object :=
  match reply.json with
  | .ok (.object fields) => fields
  | _ => []

/-- The kind of refusal that a status and a code stand for. -/
def refusalKind (status : Nat) (code : Value) : Refusal :=
  match status, code with
  | 404, _ => .notFound
  | 409, _ => .conflict
  | 412, .text s => if s = "file_exists" then .databaseExists else .general
  | 400, .text s => if s = "no_usable_index" then .missingIndex else .general
  | _, _ => .general

/-- The refusal of a call to a path. -/
def refused (reply : Reply) (method : Method) (path : String) : Refused :=
  let code := Object.getD reply.fieldsOrNone "error"
  let reason := Object.getD reply.fieldsOrNone "reason"
  let message :=
    method.name ++ " " ++ path ++ " failed with " ++ toString reply.status ++ ": " ++
      (if code.truthy then code.written else "error") ++
      (if reason.truthy then " (" ++ reason.written ++ ")" else "")
  ⟨refusalKind reply.status code, message, .int reply.status, code, reason⟩

/-- The failure of a call that is refused.  A body that is nested too deeply is a failure of its
    own. -/
def refusal (reply : Reply) (method : Method) (path : String) : Failure :=
  match reply.json with
  | .error .tooDeep => .tooDeep
  | _ => .refused (reply.refused method path)

/-- The receipt in the body of a reply. -/
def receipt (reply : Reply) : Except Failure Receipt := do
  let body ← reply.json
  let id ← body.entry "id"
  let revision ← body.entry "rev"
  return ⟨id.written, revision.written⟩

/-- The page in the fields of a body. -/
def page (fields : Object) : Except Failure Page := do
  let docs ← ((Object.get? fields "docs").getD (.list [])).elements
  let bookmark := Object.getD fields "bookmark"
  return ⟨docs, if bookmark.truthy then bookmark else .null, Object.getD fields "warning"⟩

end Reply

/-! ## Sending calls -/

/-- A connection to a store and what has passed over it, with the databases that its session has
    opened and the session's log. -/
structure Remote where
  endpoint : Endpoint
  reactions : List Reaction
  connected : Bool
  sent : List Sent
  opened : List Value
  log : List LogEntry
  deriving Repr, Inhabited

namespace Remote

/-- A connection that has not been opened yet. -/
def start (endpoint : Endpoint) (reactions : List Reaction) : Remote :=
  ⟨endpoint, reactions, false, [], [], []⟩

/-- Opens the connection; opening it again changes nothing. -/
def connect (r : Remote) : Except Failure Unit × Remote :=
  if r.connected then (.ok (), r)
  else
    match r.endpoint.base with
    | .ok _ => (.ok (), { r with connected := true })
    | .error e => (.error e, r)

/-- Closes the connection. -/
def close (r : Remote) : Remote := { r with connected := false }

/-- Takes a log entry. -/
def note (entry : LogEntry) (r : Remote) : Remote := { r with log := r.log ++ [entry] }

/-- The client of an open connection. -/
def client (r : Remote) : Except Failure Unit :=
  if r.connected then .ok () else .error (.connection "Not connected; call connect() first")

/-- What a call comes to that meets a reaction. -/
def outcome (call : Call) : Reaction → Except Failure Reply
  | .reply reply => .ok reply
  | .broken message =>
    .error (.connection (call.method.name ++ " " ++ String.ofList call.path ++ ": " ++ message))
  | .undecodable => .error .undecodable
  | .tooManyRedirects => .error .tooManyRedirects

/-- The next reaction, and those after it. -/
def nextReaction : List Reaction → Reaction × List Reaction
  | [] => (.broken "no reply left", [])
  | reaction :: rest => (reaction, rest)

/-- Makes a call ready: where it goes, and how it goes out.  The address comes first, then the body,
    which needs a JSON form, and then the name of the host. -/
def prepare (call : Call) (endpoint : Endpoint) : Except Failure (Url × Sent) := do
  let url ← endpoint.locate call
  let body ← call.body.mapM Json.plain
  let host ← url.hostHeader
  return (url, ⟨call.method, String.ofList url.target, host, endpoint.authorization url, body⟩)

/-- Sends a call that has been made ready.  A reply is taken only where its cookies have an
    owner. -/
def transmit (call : Call) (url : Url) (sent : Sent) (r : Remote) :
    Except Failure Arrival × Remote :=
  let (reaction, rest) := nextReaction r.reactions
  let result :=
    match outcome call reaction with
    | .ok reply => if url.ownsCookies then .ok ⟨url.readablePath, reply⟩ else .error .badText
    | .error e => .error e
  (result, { r with sent := r.sent ++ [sent], reactions := rest })

/-- Opens the connection if need be and sends a call. -/
def send (call : Call) (r : Remote) : Except Failure Arrival × Remote :=
  match r.connect with
  | (.ok _, r) =>
    match prepare call r.endpoint with
    | .ok (url, sent) => transmit call url sent r
    | .error e => (.error e, r)
  | (.error e, r) => (.error e, r)

/-- Sends a call and reads the reply, unless it is a refusal. -/
def exchange {α : Type} (call : Call) (read : Reply → Except Failure α) (r : Remote) :
    Except Failure α × Remote :=
  match send call r with
  | (.ok ⟨path, reply⟩, r) =>
    if reply.isError then (.error (reply.refusal call.method path), r) else (read reply, r)
  | (.error e, r) => (.error e, r)

/-- Sends a call that may turn out impossible to make. -/
def attempt {α : Type} (call : Except Failure Call) (read : Reply → Except Failure α)
    (r : Remote) : Except Failure α × Remote :=
  match call with
  | .ok call => exchange call read r
  | .error e => (.error e, r)

/-- Whether the server answers at its root.  A connection that is not open is not tried, and one
    that breaks is an answer too. -/
def health (r : Remote) : Except Failure Bool × Remote :=
  if r.connected then
    match send (.plain .get ['/']) r with
    | (.ok ⟨_, reply⟩, r) => (.ok (reply.status = 200), r)
    | (.error (.connection _), r) => (.ok false, r)
    | (.error .undecodable, r) => (.ok false, r)
    | (.error .tooManyRedirects, r) => (.ok false, r)
    | (.error e, r) => (.error e, r)
  else (.ok false, r)

/-! ## Answering requests -/

/-- Whether a database exists. -/
def exists? (database : Value) (r : Remote) : Except Failure Bool × Remote :=
  match Call.exists? database with
  | .error e => (.error e, r)
  | .ok call =>
    match send call r with
    | (.ok ⟨path, reply⟩, r) =>
      if reply.status = 404 then (.ok false, r)
      else if reply.isError then (.error (reply.refusal call.method path), r)
      else (.ok true, r)
    | (.error e, r) => (.error e, r)

/-- Creates a database. -/
def create (database : Value) (r : Remote) : Except Failure Unit × Remote :=
  match attempt (Call.createDatabase database) (fun _ => .ok ()) r with
  | (.ok _, r) =>
    (.ok (), r.note ⟨.http, .info, "Created CouchDB database " ++ database.written⟩)
  | (.error e, r) => (.error e, r)

/-- Answers a query.  A warning in the reply is noted. -/
def find (database : Value) (query : Query) (r : Remote) : Except Failure Page × Remote :=
  match attempt (Call.find database query) (fun reply => do (← reply.json).fields) r with
  | (.ok fields, r) =>
    let warning := Object.getD fields "warning"
    let entry : LogEntry :=
      ⟨.http, .debug, "CouchDB _find warning on " ++ database.written ++ ": " ++ warning.written⟩
    (Reply.page fields, if warning.truthy then r.note entry else r)
  | (.error e, r) => (.error e, r)

/-- Answers a request. -/
def answer : (request : Request) → Remote → Except Failure request.Answer × Remote
  | .exists database, r => r.exists? database
  | .createDatabase database, r => r.create database
  | .get database id, r => attempt (Call.get database id) Reply.json r
  | .insert database document, r => attempt (Call.insert database document) Reply.receipt r
  | .destroy database id revision, r =>
    attempt (Call.destroy database id revision) (fun _ => .ok ()) r
  | .find database query, r => r.find database query
  | .isOpen database, r => (.ok (r.opened.any fun v => v.same database), r)
  | .openDatabase database, r => (.ok (), { r with opened := r.opened ++ [database] })

/-- The backend of a session with a store at the other end of a connection. -/
def backend : Backend Remote := ⟨answer, note⟩

end Remote

end DocStore.Http
