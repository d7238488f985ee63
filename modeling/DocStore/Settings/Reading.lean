/-
  Reading settings from data.

  Settings are an object (or a row of pairs) whose fields are checked one by one in the order of
  their declaration; fields with other names are ignored.  A field accepts what can only mean one
  thing:

  * a text has to be a text;
  * a switch is a boolean, zero or one, or one of the usual words in any mixture of cases;
  * an integer is an integer, a boolean, a double without a fractional part, or the text of one;
  * a number is any of these and a text of a decimal number, infinities included.

  All faults are collected, each under the name of its field.
-/
import DocStore.Settings.Basic
import DocStore.Value.Entries
import DocStore.Text.Numeral

namespace DocStore.Settings

/-- The outcome of checking one field: the value, or the messages about it, each with its name. -/
abbrev Checked (α : Type) := Except (List (String × String)) α

/-! ## Kinds of fields -/

/-- A text. -/
def checkText (v : Value) : Except String String :=
  match v with
  | .text s => .ok s
  | _ => .error "Input should be a valid string"

/-- The words for yes. -/
def yesWords : List String := ["true", "yes", "on", "t", "y", "1"]

/-- The words for no. -/
def noWords : List String := ["false", "no", "off", "f", "n", "0"]

/-- The message about a value of a kind that no switch can have. -/
def noSwitch : String := "Input should be a valid boolean"

/-- The message about a text or a number that is no position of a switch. -/
def unclearSwitch : String := "Input should be a valid boolean, unable to interpret input"

/-- The first integer with more than 64 bits. -/
def wordBound : Int := 9223372036854775808

/-- A double without a fractional part: an integer strictly between the bounds of 64 bits, or one
    that lies on them or beyond. -/
inductive Whole where
  | inner (n : Int)
  | outer
  deriving DecidableEq, Repr, Inhabited

/-- What a double without a fractional part is. -/
def whole? (d : Double) : Option Whole :=
  d.toInt?.map fun n => if -wordBound < n ∧ n < wordBound then .inner n else .outer

/-- A switch given by an integer of at most 64 bits. -/
def switchOfInt (n : Int) : Except String Bool :=
  if n = 0 then .ok false else if n = 1 then .ok true else .error unclearSwitch

/-- A switch. -/
def checkSwitch (v : Value) : Except String Bool :=
  match v with
  | .bool b => .ok b
  | .int n => if -wordBound ≤ n ∧ n < wordBound then switchOfInt n else .error noSwitch
  | .double d =>
    match whole? d with
    | some (.inner n) => switchOfInt n
    | _ => .error noSwitch
  | .text s =>
    if yesWords.contains s.toLower then .ok true
    else if noWords.contains s.toLower then .ok false
    else .error unclearSwitch
  | _ => .error noSwitch

/-- The message about an integer with too many digits. -/
def tooLarge : String := "Unable to parse input string as an integer, exceeded maximum size"

/-- An integer. -/
def checkInt (v : Value) : Except String Int :=
  match v with
  | .int n => .ok n
  | .bool b => .ok (if b then 1 else 0)
  | .double d =>
    match whole? d with
    | some (.inner n) => .ok n
    | some .outer => .error tooLarge
    | none => .error "Input should be a valid integer, got a number with a fractional part"
  | .infinity _ => .error "Input should be a finite number"
  | .nan => .error "Input should be a finite number"
  | .text s =>
    match Text.readWholeNumber s with
    | .ok n => .ok n
    | .error .tooLong => .error tooLarge
    | .error .malformed =>
      .error "Input should be a valid integer, unable to parse string as an integer"
  | _ => .error "Input should be a valid integer"

/-- The message about a value of a kind that no number can have. -/
def noNumber : String := "Input should be a valid number"

/-- A number.  An integer has to be small enough for a double. -/
def checkNumber (v : Value) : Except String Extended :=
  match v with
  | .int n => if (Double.ofInt n).isFinite then .ok (.finite (.ofInt n)) else .error noNumber
  | .bool b => .ok (.finite (.ofInt (if b then 1 else 0)))
  | .double d => .ok (.finite d)
  | .infinity negative => .ok (.infinity negative)
  | .nan => .ok .nan
  | .text s =>
    match Text.readDecimal? s with
    | some x => .ok x
    | none => .error "Input should be a valid number, unable to parse string as a number"
  | _ => .error noNumber

/-- A text with more than blanks in it. -/
def checkFilled (message : String) (v : Value) : Except String String := do
  let s ← checkText v
  if Text.isBlankText s then throw message else return s

/-- The message about a number that is not positive. -/
def notPositive : String := "Input should be greater than 0"

/-- A time to wait: a positive number, or none when it is infinite. -/
def checkTimeout (v : Value) : Except String (Option Double) := do
  let x ← checkNumber v
  if x.isPositive then
    match x with
    | .finite d => return some d
    | _ => return none
  else throw notPositive

/-! ## Diagnostics -/

/-- Checks the switches of single operations one after the other. -/
def checkSwitches (fields : Object) : List Operation → List Operation × List (String × String)
  | [] => ([], [])
  | op :: rest =>
    let (on, faults) := checkSwitches fields rest
    match Object.get? fields op.name with
    | none => (on, faults)
    | some v =>
      match checkSwitch v with
      | .ok true => (op :: on, faults)
      | .ok false => (on, faults)
      | .error message => (on, ("debug_logs.DebugLogOptions." ++ op.name, message) :: faults)

/-- One switch for all operations, or an object with a switch for each.  What is neither is reported
    as both. -/
def checkDiagnostics (v : Value) : Checked Diagnostics :=
  match checkSwitch v with
  | .ok on => .ok (.everywhere on)
  | .error message =>
    let first := ("debug_logs.bool", message)
    match v with
    | .object fields =>
      match checkSwitches fields Operation.all with
      | (on, []) => .ok (.only on)
      | (_, faults) => .error (first :: faults)
    | _ =>
      .error [first, ("debug_logs.DebugLogOptions",
        "Input should be a valid dictionary or instance of DebugLogOptions")]

/-! ## The whole -/

/-- Checks a field that is given, or takes what holds without it. -/
def checkField {α : Type} (fields : Object) (name : String) (absent : Except String α)
    (check : Value → Except String α) : Checked α :=
  match (match Object.get? fields name with | some v => check v | none => absent) with
  | .ok a => .ok a
  | .error message => .error [(name, message)]

/-- The faults of a checked field. -/
def faultsOf {α : Type} : Checked α → List (String × String)
  | .ok _ => []
  | .error faults => faults

/-- Checks the fields of an object. -/
def ofFields (fields : Object) : Except Failure Settings :=
  let url := checkField fields "url" (.error "Field required") fun v =>
    (checkFilled "CouchDB adapter requires a URL" v).map Text.strip
  let database := checkField fields "database" (.ok "app_auth") (checkFilled "must not be empty")
  let perModel := checkField fields "use_model_as_database" (.ok false) checkSwitch
  let diagnostics :=
    match Object.get? fields "debug_logs" with
    | some v => checkDiagnostics v
    | none => .ok (.everywhere false)
  let discriminator :=
    checkField fields "discriminator_field" (.ok "doc_type") (checkFilled "must not be empty")
  let pageSize := checkField fields "page_size" (.ok 1000) fun v => do
    let n ← checkInt v
    if n ≤ 0 then throw notPositive else return n
  let timeout := checkField fields "timeout" (.ok (some (.ofInt 10))) checkTimeout
  match url, database, perModel, diagnostics, discriminator, pageSize, timeout with
  | .ok url, .ok database, .ok perModel, .ok diagnostics, .ok discriminator, .ok pageSize,
      .ok timeout =>
    .ok ⟨url, database, perModel, diagnostics, discriminator, pageSize, timeout⟩
  | _, _, _, _, _, _, _ =>
    .error (.settings ((faultsOf url ++ faultsOf database ++ faultsOf perModel ++
      faultsOf diagnostics ++ faultsOf discriminator ++ faultsOf pageSize ++
      faultsOf timeout).map fun (name, message) => (name, [message])))

/-- Reads settings from an object or a row of pairs.  No field has a name that is no text. -/
def ofValue (v : Value) : Except Failure Settings := do
  let entries ← Entries.ofValue v
  ofFields (entries.filterMap fun (key, v) =>
    match key with | .text name => some (name, v) | _ => none)

end DocStore.Settings
