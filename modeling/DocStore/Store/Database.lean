/-
  A database in memory.

  A database holds documents under identifiers that are texts, in the order of the identifiers.
  Each stored document carries its identifier and its revision among its fields; beside them stands
  the revision itself, so that the next one is computed and never parsed.

  A revision is a generation, which counts the writes to the document since it came into being, and
  a token, drawn afresh for every accepted write.  A write has to name the current revision of the
  document, or none if there is no document; then no write is lost, and none is mistaken for an
  older one after a document has been deleted and made again.

  Tokens and missing identifiers are drawn from a counter that the caller passes in and gets back.
-/
import DocStore.Order.Sort
import DocStore.Selector.Match
import DocStore.Store.Request
import DocStore.Store.Table
import DocStore.Text.Numeral

namespace DocStore

/-- The revision of a stored document. -/
structure Revision where
  generation : Nat
  token : Nat
  deriving DecidableEq, Repr, Inhabited

/-- A drawn token as text: at least 32 hexadecimal digits, and as many as it takes, so that
    different tokens have different texts. -/
def tokenText (n : Nat) : String :=
  String.ofList (Text.hexDigits (max 32 (Nat.log2 n / 4 + 1)) n)

/-- A revision as text. -/
def Revision.text (r : Revision) : String := toString r.generation ++ "-" ++ tokenText r.token

/-- A stored document: its revision, and all its fields. -/
structure Stored where
  revision : Revision
  fields : Object
  deriving Repr, Inhabited

/-- A database, with the queries it has been asked. -/
structure Database where
  documents : Table Stored
  queries : List Query
  deriving Repr, Inhabited

namespace Database

/-- A database without documents. -/
def empty : Database := ⟨[], []⟩

/-- The documents as values, in the order of their identifiers. -/
def contents (db : Database) : List Value := db.documents.map fun entry => .object entry.2.fields

/-- The document under an identifier that may be any value; only a text can name one, and what
    cannot be a key cannot be looked up. -/
def look (db : Database) (id : Value) : Except Failure (Option Stored) :=
  match id with
  | .text s => .ok (db.documents.get? s)
  | v => if v.isKey then .ok none else .error .wrongKind

/-- The refusal for a document that is not there. -/
def absent (id : Value) (reason : String) : Failure :=
  .refuse .notFound ("Document " ++ id.shown ++ " not found") (.text reason)

/-- The refusal for a write under another revision than the current one. -/
def stale (id : Value) : Failure :=
  .refuse .conflict ("Document " ++ id.shown ++ " update conflict")
    (.text "Document update conflict.")

/-- The document under an identifier. -/
def get (db : Database) (id : Value) : Except Failure Value := do
  match ← db.look id with
  | some d => return .object d.fields
  | none => throw (absent id "missing")

/-- The current revision as a value; null if there is no document. -/
def currentRevision : Option Stored → Value
  | some d => .text d.revision.text
  | none => .null

/-- The identifier under which a document is to be stored; one is drawn if it brings none. -/
def identify (document : Object) (draws : Nat) : String × Nat :=
  let given := Object.getD document "_id"
  if given.truthy then (given.written, draws) else (tokenText (draws + 1), draws + 1)

/-- Stores a document under the revision it names, with a drawn token.  The answer says where it is
    and what its revision is now; the last component is the counter of draws. -/
def insert (db : Database) (document : Object) (draws : Nat) :
    Except Failure Receipt × Database × Nat :=
  let (id, draws) := identify document draws
  let current := db.documents.get? id
  if Value.same (Object.getD document "_rev") (currentRevision current) then
    let generation := match current with | some d => d.revision.generation + 1 | none => 1
    let revision : Revision := ⟨generation, draws + 1⟩
    let fields := Object.set (Object.set document "_id" (.text id)) "_rev" (.text revision.text)
    (.ok ⟨id, revision.text⟩, { db with documents := db.documents.put id ⟨revision, fields⟩ },
      draws + 1)
  else (.error (stale (.text id)), db, draws)

/-- Removes a document under its current revision. -/
def destroy (db : Database) (id revision : Value) : Except Failure Unit × Database :=
  match db.look id, id with
  | .ok (some d), .text key =>
    if Value.same (.text d.revision.text) revision then
      (.ok (), { db with documents := db.documents.remove key })
    else (.error (stale id), db)
  | .error e, _ => (.error e, db)
  | _, _ => (.error (absent id "deleted"), db)

/-! ## Queries -/

/-- The position that a bookmark stands for; without one, the beginning. -/
def bookmarkPosition (bookmark : Value) : Except Failure Int :=
  if bookmark.truthy then
    match bookmark with
    | .text s =>
      match Text.readInt? s with
      | some n => .ok n
      | none => .error .badText
    | .int n => .ok n
    | .bool _ => .ok 1
    | .double d => .ok d.truncate
    | _ => .error .wrongKind
  else .ok 0

/-- The refusal of an order with keys for which there is no index. -/
def unindexed (fields : List String) : Failure :=
  .refuse .missingIndex "No index exists for this sort, try indexing by the sort fields."
    (.text ("unindexed sort fields: " ++ ", ".intercalate fields))

/-- Whether a field is among the sortable ones. -/
def isIndexed (indexed : List Value) (field : Value) : Bool := indexed.any fun v => v.same field

/-- Refuses an order that uses other fields than the sortable ones, if those are limited.  The
    refusal names them, so they have to have names. -/
def checkIndex (sortable : Option (List Value)) (keys : List SortKey) : Except Failure Unit :=
  match sortable with
  | none => .ok ()
  | some indexed =>
    match (keys.map (·.field)).filter fun f => !isIndexed indexed f with
    | [] => .ok ()
    | missing =>
      match missing.mapM fun f => match f with | .text s => some s | _ => none with
      | some names => .error (unindexed names)
      | none => .error .wrongKind

/-- The documents of a row that match a selector, up to the first failure. -/
def matching (selector : Value) : List Value → Except Failure (List Value)
  | [] => .ok []
  | doc :: rest => do
    let holds ← Selector.test selector doc
    let others ← matching selector rest
    return if holds then doc :: others else others

/-- A document with only the wanted fields. -/
def keepFields (wanted : Value) : List (String × Value) → Except Failure Object
  | [] => .ok []
  | (key, v) :: rest => do
    let held ← wanted.holds key
    let others ← keepFields wanted rest
    return if held then (key, v) :: others else others

/-- Documents with only the wanted fields; nothing wanted means all. -/
def restrict (wanted : Value) : List Value → Except Failure (List Value)
  | [] => .ok []
  | doc :: rest =>
    if wanted.truthy then do
      let kept ← keepFields wanted (← doc.fields)
      return .object kept :: (← restrict wanted rest)
    else .ok (doc :: rest)

/-- The page of documents that a query asks for: those that match, ordered, from the bookmark and
    what is to be skipped, up to the limit or the page length of the database. -/
def answerQuery (documents : List Value) (sortable : Option (List Value)) (defaultLimit : Value)
    (query : Query) : Except Failure Page := do
  let keys ← SortKey.ofRequest query.sort
  checkIndex sortable keys
  let found ← matching query.selector documents
  let ordered ← orderDocuments keys id found
  let start := (← bookmarkPosition query.bookmark) + (← query.skip.skipped)
  let length ← (if query.limit.isNull then defaultLimit else query.limit).position
  let docs := slice start (some (start + length)) ordered
  let shown ← restrict query.fields docs
  return ⟨shown, .text (toString (start + (docs.length : Int))), .null⟩

/-- Answers a query and records it, also when it fails. -/
def find (db : Database) (sortable : Option (List Value)) (defaultLimit : Value) (query : Query) :
    Except Failure Page × Database :=
  (answerQuery db.contents sortable defaultLimit query,
    { db with queries := db.queries ++ [query] })

end Database

end DocStore
