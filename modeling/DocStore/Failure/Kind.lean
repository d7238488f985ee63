/-
  The kinds under which failures are reported.

  Kinds form a hierarchy, so that a caller can deal with all failures of the store, or with all lost
  races, at once.  A refusal because of a stale revision is both: a refused request and a failure of
  optimistic locking.  `Kind.isA` is the reflexive and transitive closure of `Kind.parents`.

  A failure can also be made by hand from a row of arguments and named ones, under the rules of its
  kind (`Report.make`): settings take their errors, refusals a message and up to three details with
  the defaults of their kind, and every other kind its message.
-/
import DocStore.Value.Access

namespace DocStore

/-- A kind of failure. -/
inductive Kind where
  | any | validation | infrastructure | persistence | concurrency | locking | store | connection
  | query | settings | refused | notFound | conflict | missingIndex | databaseExists
  deriving DecidableEq, Repr, Inhabited

namespace Kind

/-- The name of a kind. -/
def name : Kind → String
  | .any => "CQRSDDDError"
  | .validation => "ValidationError"
  | .infrastructure => "InfrastructureError"
  | .persistence => "PersistenceError"
  | .concurrency => "ConcurrencyError"
  | .locking => "OptimisticLockingError"
  | .store => "CouchPersistenceError"
  | .connection => "CouchConnectionError"
  | .query => "CouchQueryError"
  | .settings => "AdapterConfigurationError"
  | .refused => "CouchRequestError"
  | .notFound => "DocumentNotFoundError"
  | .conflict => "DocumentConflictError"
  | .missingIndex => "MissingIndexError"
  | .databaseExists => "DatabaseExistsError"

/-- All kinds, in the order of their names. -/
def all : List Kind :=
  [.settings, .any, .concurrency, .connection, .store, .query, .refused, .databaseExists, .conflict,
   .notFound, .infrastructure, .missingIndex, .locking, .persistence, .validation]

/-- The kinds directly above a kind. -/
def parents : Kind → List Kind
  | .any => []
  | .validation => [.any]
  | .infrastructure => [.any]
  | .persistence => [.infrastructure]
  | .concurrency => [.any]
  | .locking => [.concurrency, .persistence]
  | .store => [.persistence]
  | .connection => [.store]
  | .query => [.store]
  | .settings => [.validation]
  | .refused => [.store]
  | .notFound => [.refused]
  | .conflict => [.refused, .locking]
  | .missingIndex => [.refused]
  | .databaseExists => [.refused]

/-- Whether a kind is another or lies below it, in at most `depth` steps. -/
def isWithin : Nat → Kind → Kind → Bool
  | 0, k, above => k = above
  | depth + 1, k, above => k = above || k.parents.any fun p => isWithin depth p above

/-- Whether a kind is another or lies below it; no chain is longer than there are kinds. -/
def isA (k above : Kind) : Bool := isWithin all.length k above

/-- A kind by its name. -/
def ofName? (name : String) : Option Kind := all.find? fun k => k.name = name

/-- The refusal that a kind reports, if it reports one. -/
def refusal? : Kind → Option Refusal
  | .refused => some .general
  | .notFound => some .notFound
  | .conflict => some .conflict
  | .missingIndex => some .missingIndex
  | .databaseExists => some .databaseExists
  | _ => none

end Kind

/-- The kind of a refusal. -/
def Refusal.kind : Refusal → Kind
  | .general => .refused
  | .notFound => .notFound
  | .conflict => .conflict
  | .missingIndex => .missingIndex
  | .databaseExists => .databaseExists

/-- The kind of a failure, if it is reported under one. -/
def Failure.kind? : Failure → Option Kind
  | .query _ => some .query
  | .refused refusal => some refusal.kind.kind
  | .connection _ => some .connection
  | .settings _ => some .settings
  | _ => none

/-- A failure as logs show it: its kind with the quoted message. -/
def Failure.shown (f : Failure) : String :=
  match f.kind? with
  | some kind => kind.name ++ "(" ++ Text.quoted f.message ++ ")"
  | none => Text.quoted f.message

/-- The store's failures are those whose kind lies below the store's. -/
theorem Failure.isStoreFailure_iff (f : Failure) :
    f.isStoreFailure = true ↔ ∃ k, f.kind? = some k ∧ k.isA .store = true := by
  cases f with
  | refused r => obtain ⟨kind, _⟩ := r; cases kind <;> simp [isStoreFailure, kind?] <;> decide
  | query _ => simp [isStoreFailure, kind?]; decide
  | connection _ => simp [isStoreFailure, kind?]; decide
  | settings _ => simp [isStoreFailure, kind?]; decide
  | _ => simp [isStoreFailure, kind?]

/-- A failure as it is reported: its kind, its message, and what its kind adds to them. -/
structure Report where
  kind : Kind
  message : String
  errors : Option Value
  details : Option (Value × Value × Value)
  deriving Repr, Inhabited

namespace Report

/-- The report of a failure, if it is reported under a kind. -/
def ofFailure? (f : Failure) : Option Report :=
  match f with
  | .settings errors =>
    some ⟨.settings, f.message,
      some (.object (errors.map fun (field, messages) => (field, Value.ofTexts messages))), none⟩
  | .refused r => some ⟨r.kind.kind, r.message, none, some (r.status, r.code, r.reason)⟩
  | _ => f.kind?.map fun kind => ⟨kind, f.message, none, none⟩

/-- Whether only the given names occur among named arguments. -/
def onlyNames (names : List String) (named : Object) : Bool :=
  named.all fun argument => names.contains argument.1

/-- The value of a parameter that may be given by its place or by its name, but not by both. -/
def parameter (row : List Value) (named : Object) (name : String) :
    Except Failure (Option Value) :=
  match row, Object.get? named name with
  | [], given => .ok given
  | [v], none => .ok (some v)
  | _, _ => .error .wrongKind

/-- The report of a validation: a text stands for one error without a field. -/
def makeValidation (kind : Kind) (row : List Value) (named : Object) : Except Failure Report := do
  if onlyNames ["errors"] named then
    let errors : Value :=
      match ← parameter row named "errors" with
      | none => .object []
      | some .null => .object []
      | some (.text s) => .object [("__root__", .list [.text s])]
      | some v => v
    return ⟨kind, errors.written, some errors, none⟩
  else throw .wrongKind

/-- The report of a refusal.  One without a meaning of its own needs its message. -/
def makeRefusal (refusal : Refusal) (row : List Value) (named : Object) :
    Except Failure Report := do
  if onlyNames ["message", "status_code", "error", "reason"] named then
    let message ←
      match ← parameter row named "message" with
      | some v => Except.ok v.written
      | none =>
        if refusal = .general then Except.error .wrongKind
        else Except.ok (Refused.messageOf refusal)
    let detail := fun (name : String) (absent : Value) => (Object.get? named name).getD absent
    return ⟨refusal.kind, message, none,
      some (detail "status_code" (Refused.statusOf refusal),
        detail "error" (Refused.codeOf refusal), detail "reason" .null)⟩
  else throw .wrongKind

/-- The message of a row of arguments: none, the single one, or the row as shown. -/
def rowMessage : List Value → String
  | [] => ""
  | [v] => v.written
  | row => (Value.tuple row).shown

/-- Makes the report of a kind from a row of arguments and named ones. -/
def make (kind : Kind) (row : List Value) (named : Object) : Except Failure Report :=
  match kind.refusal? with
  | some refusal => makeRefusal refusal row named
  | none =>
    if kind.isA .validation then makeValidation kind row named
    else if named.isEmpty then .ok ⟨kind, rowMessage row, none, none⟩
    else .error .wrongKind

end Report

end DocStore
