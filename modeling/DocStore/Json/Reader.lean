/-
  Reading JSON text.

  The reader keeps what documents depend on: the order of fields (a key that occurs twice keeps its
  first place and takes its last value), integers, and the difference between an integer and a
  number with a point or an exponent, which is a double.  Three words stand for the infinities and
  for no number.  An escaped pair of surrogates is one character; half a pair stands for the
  replacement character.

  Besides text that is not JSON, two things are refused where they are met: an integer of more
  digits than can be read, and nesting beyond `nestingLimit`.

  Every function takes characters off the front and hands back the rest.  The reader of values is
  bounded by a fuel argument, for which the length of the text is enough, since each nested value
  takes at least one character.
-/
import DocStore.Value.Basic
import DocStore.Text.Numeral

namespace DocStore.Json

/-- Why a text cannot be read. -/
inductive Fault where
  /-- It is not JSON. -/
  | malformed
  /-- It holds an integer of too many digits. -/
  | tooLong
  /-- It is nested too deeply. -/
  | tooDeep
  deriving DecidableEq, Repr, Inhabited

/-- The number of arrays and objects that may stand within each other. -/
def nestingLimit : Nat := 970

/-- The characters that may stand between tokens. -/
def isSpace (c : Char) : Bool := c = ' ' || c = '\n' || c = '\t' || c = '\r'

/-- The rest after white space. -/
def skipSpace (cs : List Char) : List Char := cs.dropWhile isSpace

/-- The value of a hexadecimal digit. -/
def hexValue? (c : Char) : Option Nat :=
  let n := c.toNat
  if 48 ≤ n ∧ n < 58 then some (n - 48)
  else if 97 ≤ n ∧ n < 103 then some (n - 87)
  else if 65 ≤ n ∧ n < 71 then some (n - 55)
  else none

/-- Four hexadecimal digits. -/
def readCode? : List Char → Option (Nat × List Char)
  | a :: b :: c :: d :: rest => do
    let a ← hexValue? a
    let b ← hexValue? b
    let c ← hexValue? c
    let d ← hexValue? d
    return (((a * 16 + b) * 16 + c) * 16 + d, rest)
  | _ => none

/-- The character of a code, or the replacement character for half a pair. -/
def charOfCode (n : Nat) : Char :=
  if 0xD800 ≤ n ∧ n < 0xE000 then Char.ofNat 0xFFFD else Char.ofNat n

/-- The character named by an escaped code, with the second half of a pair if it follows. -/
def readEscapedCode? (cs : List Char) : Option (Char × List Char) := do
  let (high, rest) ← readCode? cs
  if 0xD800 ≤ high ∧ high < 0xDC00 then
    match rest with
    | '\\' :: 'u' :: more =>
      match readCode? more with
      | some (low, after) =>
        if 0xDC00 ≤ low ∧ low < 0xE000 then
          return (Char.ofNat (0x10000 + (high - 0xD800) * 0x400 + (low - 0xDC00)), after)
        else return (charOfCode high, rest)
      | none => return (charOfCode high, rest)
    | _ => return (charOfCode high, rest)
  else return (charOfCode high, rest)

/-- The character that a single letter after a backslash stands for. -/
def simpleEscape? (c : Char) : Option Char :=
  if c = '\x22' ∨ c = '\\' ∨ c = '/' then some c
  else if c = 'b' then some (Char.ofNat 8)
  else if c = 'f' then some (Char.ofNat 12)
  else if c = 'n' then some '\n'
  else if c = 'r' then some '\r'
  else if c = 't' then some '\t'
  else none

/-- The inside of a string up to its closing quote. -/
def readString? : Nat → List Char → List Char → Option (String × List Char)
  | 0, _, _ => none
  | _, _, [] => none
  | fuel + 1, acc, c :: rest =>
    if c = '\x22' then some (String.ofList acc.reverse, rest)
    else if c.toNat < 32 then none
    else if c = '\\' then
      match rest with
      | 'u' :: more =>
        match readEscapedCode? more with
        | some (d, after) => readString? fuel (d :: acc) after
        | none => none
      | e :: more =>
        match simpleEscape? e with
        | some d => readString? fuel (d :: acc) more
        | none => none
      | [] => none
    else readString? fuel (c :: acc) rest

/-- The exponent of a number: none if there is no well-formed one. -/
def takeExponent? : List Char → Option (Int × List Char)
  | c :: rest =>
    if c = 'e' ∨ c = 'E' then
      let (negative, digits) := Text.takeSign rest
      match Text.takeDigits 0 0 digits with
      | (n, _ + 1, after) => some (Text.withSign negative n, after)
      | _ => none
    else none
  | [] => none

/-- The digits behind the point: none if there is no point with a digit after it. -/
def takeFraction? (whole : Nat) : List Char → Option (Nat × Nat × List Char)
  | '.' :: rest =>
    match Text.takeDigits whole 0 rest with
    | (n, count + 1, after) => some (n, count + 1, after)
    | _ => none
  | _ => none

/-- The number nearest to a decimal one. -/
def ofDecimal (negative : Bool) (digits : Nat) (exponent : Int) : Value :=
  .ofExtended (.ofDouble (Double.ofDecimal negative digits exponent))

/-- A number without its sign.  A zero is not followed by further digits. -/
def readMagnitude (negative : Bool) (cs : List Char) : Except Fault (Value × List Char) :=
  let (whole, count, rest) :=
    match cs with
    | '0' :: rest => (0, 1, rest)
    | _ => Text.takeDigits 0 0 cs
  if count = 0 then .error .malformed
  else
    match takeFraction? whole rest with
    | some (digits, places, after) =>
      match takeExponent? after with
      | some (e, last) => .ok (ofDecimal negative digits (e - places), last)
      | none => .ok (ofDecimal negative digits (-places), after)
    | none =>
      match takeExponent? rest with
      | some (e, last) => .ok (ofDecimal negative whole e, last)
      | none =>
        if Text.digitLimit < count then .error .tooLong
        else .ok (.int (Text.withSign negative whole), rest)

/-- Takes an exact word off the front. -/
def takeWord? : List Char → List Char → Option (List Char)
  | [], cs => some cs
  | w :: ws, c :: cs => if w = c then takeWord? ws cs else none
  | _ :: _, [] => none

/-- The words that stand for values. -/
def words : List (String × Value) :=
  [("null", .null), ("true", .bool true), ("false", .bool false), ("NaN", .nan),
   ("Infinity", .infinity false), ("-Infinity", .infinity true)]

/-- A word for a value, or a number. -/
def readSimple (cs : List Char) : Except Fault (Value × List Char) :=
  match words.findSome? fun (word, v) => (takeWord? word.toList cs).map fun rest => (v, rest) with
  | some found => .ok found
  | none =>
    match cs with
    | '-' :: rest => readMagnitude true rest
    | cs => readMagnitude false cs

/-- What a reader found, or that the text is not JSON. -/
def orMalformed {α : Type} : Option α → Except Fault α
  | some a => .ok a
  | none => .error .malformed

mutual

/-- A value, without white space before it, inside `depth` arrays and objects. -/
def readValue : Nat → Nat → List Char → Except Fault (Value × List Char)
  | 0, _, _ => .error .malformed
  | _, _, [] => .error .malformed
  | fuel + 1, depth, c :: rest =>
    if c = '\x22' then
      (orMalformed (readString? (rest.length + 1) [] rest)).map fun (s, after) => (.text s, after)
    else if c = '\x7b' then
      if nestingLimit ≤ depth then .error .tooDeep
      else
        match skipSpace rest with
        | '\x7d' :: after => .ok (.object [], after)
        | inside =>
          (readFields fuel (depth + 1) [] inside).map fun (fs, after) => (.object fs, after)
    else if c = '[' then
      if nestingLimit ≤ depth then .error .tooDeep
      else
        match skipSpace rest with
        | ']' :: after => .ok (.list [], after)
        | inside => (readItems fuel (depth + 1) [] inside).map fun (vs, after) => (.list vs, after)
    else readSimple (c :: rest)

/-- The elements of an array up to its closing bracket, the ones read so far in reverse. -/
def readItems : Nat → Nat → List Value → List Char → Except Fault (List Value × List Char)
  | 0, _, _, _ => .error .malformed
  | fuel + 1, depth, acc, cs =>
    match readValue fuel depth cs with
    | .error fault => .error fault
    | .ok (v, rest) =>
      match skipSpace rest with
      | ',' :: more => readItems fuel depth (v :: acc) (skipSpace more)
      | ']' :: after => .ok ((v :: acc).reverse, after)
      | _ => .error .malformed

/-- The fields of an object up to its closing brace. -/
def readFields : Nat → Nat → Object → List Char → Except Fault (Object × List Char)
  | 0, _, _, _ => .error .malformed
  | fuel + 1, depth, acc, '\x22' :: cs =>
    match readString? (cs.length + 1) [] cs with
    | none => .error .malformed
    | some (key, rest) =>
      match skipSpace rest with
      | ':' :: more =>
        match readValue fuel depth (skipSpace more) with
        | .error fault => .error fault
        | .ok (v, rest) =>
          match skipSpace rest with
          | ',' :: more => readFields fuel depth (acc.set key v) (skipSpace more)
          | '\x7d' :: after => .ok (acc.set key v, after)
          | _ => .error .malformed
      | _ => .error .malformed
  | _, _, _, _ => .error .malformed

end

/-- Reads a whole row of characters as one JSON value with white space around it. -/
def readChars (cs : List Char) : Except Fault Value :=
  let cs := skipSpace cs
  match readValue (cs.length + 1) 0 cs with
  | .ok (v, rest) => if (skipSpace rest).isEmpty then .ok v else .error .malformed
  | .error fault => .error fault

/-- Reads a whole text as one JSON value with white space around it. -/
def read (text : String) : Except Fault Value := readChars text.toList

end DocStore.Json
