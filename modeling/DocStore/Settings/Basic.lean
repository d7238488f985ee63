/-
  Settings of an adapter.

  They name the server, say where models live (each in a database of its own, or all in one shared
  database where a discriminator field tells them apart), and set the size of a page and the time to
  wait.  Diagnostics are switched on for all operations at once or for each of the eight.
-/
import DocStore.Value.Basic

namespace DocStore

/-- The operations of an adapter. -/
inductive Operation where
  | create | update | updateMany | delete | deleteMany | findOne | findMany | count
  deriving DecidableEq, Repr, Inhabited

namespace Operation

/-- The name of an operation, in settings and in logs. -/
def name : Operation → String
  | .create => "create"
  | .update => "update"
  | .updateMany => "update_many"
  | .delete => "delete"
  | .deleteMany => "delete_many"
  | .findOne => "find_one"
  | .findMany => "find_many"
  | .count => "count"

/-- All operations, in the order in which their switches are declared. -/
def all : List Operation :=
  [.create, .update, .updateMany, .delete, .deleteMany, .findOne, .findMany, .count]

end Operation

/-- Which operations write diagnostics. -/
inductive Diagnostics where
  /-- All of them or none. -/
  | everywhere (on : Bool)
  /-- Those listed. -/
  | only (operations : List Operation)
  deriving DecidableEq, Repr, Inhabited

/-- The settings of an adapter.  Without a timeout it waits for ever. -/
structure Settings where
  url : String
  database : String
  databasePerModel : Bool
  diagnostics : Diagnostics
  discriminator : String
  pageSize : Int
  timeout : Option Double
  deriving DecidableEq, Repr, Inhabited

namespace Settings

/-- Whether an operation writes diagnostics; `none` stands for anything that is no operation. -/
def logs (settings : Settings) (operation : Option Operation) : Bool :=
  match settings.diagnostics with
  | .everywhere on => on
  | .only operations =>
    match operation with
    | some op => operations.contains op
    | none => false

/-- The discriminator field, if models share a database. -/
def sharedField (settings : Settings) : Option String :=
  if settings.databasePerModel then none else some settings.discriminator

/-- The name of the database that a model lives in. -/
def databaseOf (settings : Settings) (model : Value) : Value :=
  if settings.databasePerModel then model else .text settings.database

end Settings

end DocStore
