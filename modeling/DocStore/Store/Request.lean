/-
  What can be asked of a store, and what it answers.

  A `Request` names a database and what to do there.  Each request has an answer of its own type
  (`Request.Answer`): getting a document gives a value, inserting one a receipt with the identifier
  and the new revision, finding gives a page of documents and a bookmark at which the next page
  begins.  Any request may fail instead.

  Documents and bookmarks in answers are arbitrary values, because a remote store may send anything.
  Names of databases and the bounds of a query are arbitrary too, because a caller may give
  anything; a store refuses what it cannot use.

  The last two requests are about the session and not the store: whether it has opened a database
  already, and to open one.
-/
import DocStore.Failure

namespace DocStore

/-- A query for documents.  Null means that the store decides. -/
structure Query where
  selector : Value
  limit : Value
  skip : Value
  sort : Value
  bookmark : Value
  fields : Value
  deriving Repr, Inhabited

/-- A page of documents, with the bookmark of the next page and a warning. -/
structure Page where
  docs : List Value
  bookmark : Value
  warning : Value
  deriving Repr, Inhabited

/-- The answer to an insert: where the document is and what its revision is now. -/
structure Receipt where
  id : String
  revision : String
  deriving DecidableEq, Repr, Inhabited

/-- A request to a store. -/
inductive Request where
  | exists (database : Value)
  | createDatabase (database : Value)
  | get (database id : Value)
  | insert (database : Value) (document : Object)
  | destroy (database id revision : Value)
  | find (database : Value) (query : Query)
  | isOpen (database : Value)
  | openDatabase (database : Value)
  deriving Repr, Inhabited

/-- The type of the answer to a request. -/
abbrev Request.Answer : Request → Type
  | .exists _ => Bool
  | .createDatabase _ => Unit
  | .get .. => Value
  | .insert .. => Receipt
  | .destroy .. => Unit
  | .find .. => Page
  | .isOpen _ => Bool
  | .openDatabase _ => Unit

/-! ## Logs -/

/-- The parts of the library that write logs. -/
inductive Logger where
  | adapter | resolver | http
  deriving DecidableEq, Repr, Inhabited

/-- The name of a logger. -/
def Logger.name : Logger → String
  | .adapter => "cqrs_ddd.couchdb.adapter"
  | .resolver => "cqrs_ddd.couchdb.resolver"
  | .http => "cqrs_ddd.couchdb.http"

/-- How serious a log entry is. -/
inductive Level where
  | debug | info | warning | error
  deriving DecidableEq, Repr, Inhabited

/-- The name of a level. -/
def Level.name : Level → String
  | .debug => "DEBUG"
  | .info => "INFO"
  | .warning => "WARNING"
  | .error => "ERROR"

/-- An entry of the log. -/
structure LogEntry where
  logger : Logger
  level : Level
  message : String
  deriving DecidableEq, Repr, Inhabited

end DocStore
