/-
  What can go wrong, by cause.

  A failure says what happened and carries what its message needs; the wording is in `message` and
  nowhere else.  Three groups belong to the store and are reported to its callers as such
  (`isStoreFailure`): a filter or sort order that cannot be understood, a reply by which the store
  refuses a request, and a connection that fails.  Settings that do not pass their checks are a
  fourth, apart from the store.

  The rest are inputs that are used as what they are not: a value that cannot be iterated, a key
  that is not there, a text that is no number, and so on.  They have a kind and no message.
-/
import DocStore.DomainName.Fault
import DocStore.Value.Written

namespace DocStore

/-- Why a filter, a selector operator or a sort order cannot be understood. -/
inductive QueryFault where
  | unknownConnector (text : Value)
  | noField (condition : Value)
  | unsupportedNode (node : Value)
  | unsupportedCondition (item : Value)
  | unsupportedFilter (filter : Value)
  | textRequired (relation : Relation)
  | invalidDirection (direction : Value)
  | unsupportedSort (entry : Value)
  deriving Repr, Inhabited

/-- The wording of a fault in a query. -/
def QueryFault.message : QueryFault → String
  | .unknownConnector text => "Unknown connector: " ++ text.shown
  | .noField condition => "Condition missing 'field': " ++ condition.shown
  | .unsupportedNode node => "Unsupported filter node: " ++ node.shown
  | .unsupportedCondition item => "Unsupported condition: " ++ item.shown
  | .unsupportedFilter filter => "Unsupported filter: " ++ filter.shown
  | .textRequired relation => "String operator " ++ relation.name ++ " requires string value"
  | .invalidDirection direction => "Invalid sort direction: " ++ direction.shown
  | .unsupportedSort entry => "Unsupported sort entry: " ++ entry.shown

/-- The refusals that have a meaning of their own, and all others. -/
inductive Refusal where
  | general | notFound | conflict | missingIndex | databaseExists
  deriving DecidableEq, Repr, Inhabited

/-- A refused request: the kind of refusal, its message, and the status, code and reason that came
    with it.  A reply may hold any data there. -/
structure Refused where
  kind : Refusal
  message : String
  status : Value
  code : Value
  reason : Value
  deriving Repr, Inhabited

namespace Refused

/-- The status that belongs to a kind of refusal. -/
def statusOf : Refusal → Value
  | .general => .null
  | .notFound => .int 404
  | .conflict => .int 409
  | .missingIndex => .int 400
  | .databaseExists => .int 412

/-- The code that belongs to a kind of refusal. -/
def codeOf : Refusal → Value
  | .general => .null
  | .notFound => .text "not_found"
  | .conflict => .text "conflict"
  | .missingIndex => .text "no_usable_index"
  | .databaseExists => .text "file_exists"

/-- The message of a refusal about which nothing else is said. -/
def messageOf : Refusal → String
  | .general => ""
  | .notFound => "Document not found"
  | .conflict => "Document update conflict"
  | .missingIndex => "No index exists for this sort"
  | .databaseExists => "The database could not be created, the file already exists."

/-- A refusal with the status and code of its kind. -/
def standard (kind : Refusal) (message : String) (reason : Value) : Refused :=
  ⟨kind, message, statusOf kind, codeOf kind, reason⟩

end Refused

/-- A failure. -/
inductive Failure where
  /-- A filter or sort order that cannot be understood. -/
  | query (fault : QueryFault)
  /-- A request that the store refuses. -/
  | refused (refusal : Refused)
  /-- A connection that fails or is not there. -/
  | connection (message : String)
  /-- Settings that do not pass their checks: the messages of each field. -/
  | settings (errors : List (String × List String))
  /-- A value of the wrong kind. -/
  | wrongKind
  /-- A key that is not there. -/
  | missingKey
  /-- A text that does not read as what it should be. -/
  | badText
  /-- A position beyond the end of a row. -/
  | noPosition
  /-- A value used as an object that is none. -/
  | notObject
  /-- A pattern that cannot be read. -/
  | badPattern
  /-- A body that is not JSON. -/
  | badJson
  /-- A body that is no text in the units it seems to be written in. -/
  | garbled
  /-- A body that is nested too deeply. -/
  | tooDeep
  /-- An address to which no request can be sent. -/
  | badAddress
  /-- A host that looks like a domain name in written form and is none. -/
  | domainName (fault : DomainName.Fault)
  /-- A host with a zone that is not in ASCII. -/
  | hostNotAscii
  /-- A reply body that cannot be decoded. -/
  | undecodable
  /-- A chain of redirects without an end. -/
  | tooManyRedirects
  /-- Keys that cannot be put in order together, so that what is kept under them cannot be shown. -/
  | mixedKeys
  /-- A scan that has asked for as many pages as it may. -/
  | outOfPages
  deriving Repr, Inhabited

namespace Failure

/-- The wording of a failure; empty where there is none. -/
def message : Failure → String
  | .query fault => fault.message
  | .refused refusal => refusal.message
  | .connection message => message
  | .settings errors =>
    (Value.object (errors.map fun (field, messages) => (field, Value.ofTexts messages))).shown
  | _ => ""

/-- Whether the failure is one of the store's. -/
def isStoreFailure : Failure → Bool
  | .query _ => true
  | .refused _ => true
  | .connection _ => true
  | _ => false

/-- Whether the failure is a refusal of the given kind. -/
def isRefusal (kind : Refusal) : Failure → Bool
  | .refused refusal => refusal.kind = kind
  | _ => false

/-- A refusal with the status and code of its kind. -/
def refuse (kind : Refusal) (message : String) (reason : Value) : Failure :=
  .refused (.standard kind message reason)

end Failure

end DocStore
