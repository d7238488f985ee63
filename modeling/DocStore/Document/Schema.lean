/-
  Schemas: the names callers use and the names in the store.

  A schema either changes nothing or renames models and, for each model, fields.  Documents and
  filters going in are renamed from the caller's names to the stored ones, documents coming out the
  other way.  A renaming schema writes only populated fields: null goes no further.

  Two names may be renamed onto one.  Fields are then set one after the other, so the later wins in
  the place of the earlier; in the reverse table the later name is the one that comes back.

  Names are texts as a rule, but nothing keeps a caller from giving others (`Schema.ofValue`).  A
  field may so get a key that is no text.  In a document such a key would stand beside texts, with
  which it has no order (`stored`, `shown`).
-/
import DocStore.Filter.Reading
import DocStore.Value.Entries

namespace DocStore

/-- A table of names. -/
abbrev Names := Entries Value

namespace Names

/-- The other name, or the name itself if it is not in the table. -/
def rename (table : Names) (name : Value) : Value := (table.get? name).getD name

/-- The table read backwards; of two names with one other name, the later counts. -/
def reverse (table : Names) : Names := Entries.ofPairs (table.map fun (a, b) => (b, a))

end Names

/-- A layer of names around the store. -/
inductive Schema where
  /-- All names are the stored ones. -/
  | identity
  /-- Models and the fields of each model have other names in the store. -/
  | renaming (models : Names) (fields : Entries Names)
  deriving Repr, Inhabited

namespace Schema

/-- The table of a model's fields. -/
def fieldNames (schema : Schema) (model : Value) : Names :=
  match schema with
  | .identity => []
  | .renaming _ fields => (fields.get? model).getD []

/-- The stored name of a model.  What cannot be a key cannot be looked up in a table of names. -/
def modelName (schema : Schema) (model : Value) : Except Failure Value :=
  match schema with
  | .identity => .ok model
  | .renaming models _ => if model.isKey then .ok (models.rename model) else .error .wrongKind

/-- The stored name of a field. -/
def fieldName (schema : Schema) (model field : Value) : Value :=
  (schema.fieldNames model).rename field

/-- The stored names of fields, which have to be what can be looked up. -/
def fieldNamesOf (schema : Schema) (model : Value) (fields : List Value) :
    Except Failure (List Value) :=
  match schema with
  | .identity => .ok fields
  | .renaming .. =>
    if fields.all Value.isKey then .ok (fields.map (schema.fieldName model)) else .error .wrongKind

/-- The entries with every key renamed. -/
def renameKeys (name : Value → Value) (entries : Entries Value) : Entries Value :=
  Entries.ofPairs (entries.map fun entry => (name entry.1, entry.2))

/-- A caller's document with stored names. -/
def input (schema : Schema) (model : Value) (data : Entries Value) : Entries Value :=
  match schema with
  | .identity => data
  | .renaming .. =>
    renameKeys (schema.fieldName model) (data.filter fun entry => !entry.2.isNull)

/-- A stored document with the caller's names. -/
def output (schema : Schema) (model : Value) (stored : Entries Value) : Entries Value :=
  match schema with
  | .identity => stored
  | .renaming .. => renameKeys (schema.fieldNames model).reverse.rename stored

/-- Entries as the fields of a document, whose keys are texts. -/
def fieldsOf (entries : Entries Value) : Except Failure Object :=
  match entries.toObject? with
  | some o => .ok o
  | none => .error .mixedKeys

/-- The fields to be stored for a caller's document. -/
def stored (schema : Schema) (model : Value) (data : Entries Value) : Except Failure Object :=
  fieldsOf (schema.input model data)

/-- The fields that a caller sees of a stored document. -/
def shown (schema : Schema) (model : Value) (stored : Object) : Except Failure Object :=
  fieldsOf (schema.output model (.ofObject stored))

/-- Reads a filter and gives its fields their stored names; a field that cannot be a key cannot be
    looked up among the names. -/
def filter (schema : Schema) (model filter : Value) : Except Failure Filter := do
  let f ← Filter.ofValue filter
  match schema with
  | .identity => return f
  | .renaming .. =>
    if f.leaves.all fun c => c.field.isKey then return f.rename (schema.fieldName model)
    else throw .wrongKind

/-! ## Reading -/

/-- The entries of a document given as any data.  A schema that changes nothing takes pairs too; one
    that renames goes through fields. -/
def given (schema : Schema) (data : Value) : Except Failure (Entries Value) :=
  match schema with
  | .identity => Entries.ofValue data
  | .renaming .. => data.fields.map .ofObject

/-- Reads the field tables of models one after the other. -/
def readTables : List (String × Value) → Except Failure (Entries Names)
  | [] => .ok []
  | (model, names) :: rest => do
    let table ← Entries.ofValue names
    return (.text model, table) :: (← readTables rest)

/-- Reads a schema: null changes nothing, and an object names models and fields.  Stored names have
    to be what can be a key, since documents coming out are renamed back. -/
def ofValue (v : Value) : Except Failure Schema :=
  if v.isNull then .ok .identity
  else do
    let parts ← v.fields
    let models := Object.getD parts "model_names"
    let models ← if models.truthy then Entries.ofValue models else .ok []
    let tables := Object.getD parts "fields"
    let tables ← if tables.truthy then tables.fields else .ok []
    let tables ← readTables tables
    if tables.all fun table => table.2.all fun entry => entry.2.isKey then
      return .renaming models tables
    else throw .wrongKind

end Schema

end DocStore
