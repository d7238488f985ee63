/-
  Numbers written as text.

  An integer is a row of digits with an optional sign; single underscores may stand between digits,
  and space around the whole is ignored.  `readInt?` takes the digits of every script.

  `readWholeNumber` takes ASCII digits only, and of these at most `digitLimit`.  A text that is no
  plain integer gets a second chance in its plain form: without the space around it, a plus sign in
  front, the zeros at the beginning of its digits (with any underscores among them), a point
  followed by nothing but zeros, and single underscores.  A minus sign in front stays.

  A decimal number has digits before or after a point, or both, and an optional exponent; the words
  for infinity and for no number stand in its place.  It may have space around it, or underscores in
  it, but not both.
-/
import DocStore.Text.Blank
import DocStore.Text.Digit
import DocStore.Number.Double

namespace DocStore.Text

/-- The value of an ASCII digit. -/
def asciiDigit? (c : Char) : Option Nat :=
  if 48 ≤ c.toNat ∧ c.toNat < 58 then some (c.toNat - 48) else none

/-- Takes an optional sign off the front. -/
def takeSign : List Char → Bool × List Char
  | '-' :: rest => (true, rest)
  | '+' :: rest => (false, rest)
  | cs => (false, cs)

/-- Digits with single underscores between them.  `afterDigit` says whether the character before was
    a digit, which both an underscore and the end of the row need. -/
def readDigits? (digit? : Char → Option Nat) : Bool → Nat → List Char → Option Nat
  | afterDigit, n, [] => if afterDigit then some n else none
  | afterDigit, n, c :: rest =>
    match digit? c with
    | some d => readDigits? digit? true (10 * n + d) rest
    | none => if c = '_' ∧ afterDigit then readDigits? digit? false n rest else none

/-- Applies a sign. -/
def withSign (negative : Bool) (n : Nat) : Int := if negative then -(n : Int) else n

/-- The most digits that an integer may have when it is read from text. -/
def digitLimit : Nat := 4300

/-- Reads an integer in digits of any script. -/
def readInt? (s : String) : Option Int :=
  let (negative, digits) := takeSign (trimBoth isSpace s.toList)
  if digitLimit < digits.countP (fun c => (digitValue? c).isSome) then none
  else (readDigits? digitValue? false 0 digits).map (withSign negative)

example : readInt? " -1_0\n" = some (-10) := by decide +kernel

/-- Takes the ASCII digits at the front: their value, their number, and the rest. -/
def takeDigits : Nat → Nat → List Char → Nat × Nat × List Char
  | n, count, [] => (n, count, [])
  | n, count, c :: rest =>
    match asciiDigit? c with
    | some d => takeDigits (10 * n + d) (count + 1) rest
    | none => (n, count, c :: rest)

/-! ## Whole numbers -/

/-- Why a text is no whole number. -/
inductive NumeralFault where
  | malformed | tooLong
  deriving DecidableEq, Repr, Inhabited

/-- Whether a row of characters begins with a digit other than zero. -/
def beginsNonzero (cs : List Char) : Bool :=
  match cs with
  | c :: _ => 49 ≤ c.toNat && c.toNat < 58
  | [] => false

/-- Reads a plain integer: an optional minus sign and digits without a zero in front.  A row of too
    many digits is refused whatever comes behind it. -/
def readPlain (cs : List Char) : Except NumeralFault Int :=
  let (negative, digits) :=
    match cs with
    | '-' :: rest => (true, rest)
    | cs => (false, cs)
  if digits = ['0'] then .ok 0
  else if beginsNonzero digits then
    if digitLimit < (digits.takeWhile fun c => (asciiDigit? c).isSome).length then .error .tooLong
    else
      match takeDigits 0 0 digits with
      | (n, _, []) => .ok (withSign negative n)
      | _ => .error .malformed
  else .error .malformed

/-- What is left behind a zero in front when the zeros and underscores after it are dropped too.
    The last of them stays if nothing else is left, or before a point. -/
def dropZerosAfter (last : Char) : List Char → Option (List Char)
  | [] => some [last]
  | c :: rest =>
    if c = '0' ∨ c = '_' then dropZerosAfter c rest
    else if c = '.' then some (last :: c :: rest)
    else if c = '-' ∨ beginsNonzero [c] then some (c :: rest)
    else none

/-- A row without the zeros at its beginning. -/
def dropLeadingZeros? : List Char → Option (List Char)
  | [] => none
  | c :: rest =>
    if c = '0' then dropZerosAfter c rest
    else if c = '-' ∨ beginsNonzero [c] then some (c :: rest)
    else none

/-- A row without a point and the zeros after it, if there is nothing else after it. -/
def dropPointZeros (cs : List Char) : List Char :=
  match cs.dropWhile (· ≠ '.') with
  | _ :: zero :: zeros =>
    if (zero :: zeros).all (· = '0') then cs.takeWhile (· ≠ '.') else cs
  | _ => cs

/-- A row without its underscores, if every one of them stands between other characters. -/
def dropUnderscores? : Bool → List Char → Option (List Char)
  | inside, [] => if inside then some [] else none
  | inside, c :: rest =>
    if c = '_' then if inside then dropUnderscores? false rest else none
    else (dropUnderscores? true rest).map (c :: ·)

/-- A row of digits without what adds nothing: zeros in front, zeros behind a point, underscores. -/
def plainDigits? (cs : List Char) : Option (List Char) :=
  (dropLeadingZeros? cs).map fun digits =>
    let digits := dropPointZeros digits
    (dropUnderscores? false digits).getD digits

/-- The text of a whole number in its plain form.  A plus sign is dropped, but not before a minus
    sign, which stays in front of the digits. -/
def plainForm? (cs : List Char) : Option (List Char) :=
  match trimBoth isSpace cs with
  | '+' :: '-' :: _ => none
  | '+' :: rest => plainDigits? rest
  | '-' :: rest => (plainDigits? rest).map ('-' :: ·)
  | rest => plainDigits? rest

/-- Reads a whole number in ASCII digits.  Only a text that is plain as it stands can be too
    long. -/
def readWholeNumber (s : String) : Except NumeralFault Int :=
  match readPlain s.toList with
  | .error .malformed =>
    match (plainForm? s.toList).map readPlain with
    | some (.ok n) => .ok n
    | _ => .error .malformed
  | answer => answer

example : (readWholeNumber "10.00").toOption = some 10 := by decide +kernel

/-! ## Decimal numbers -/

/-- An exponent, which is empty or a letter `e`, a sign and digits, up to the end. -/
def readExponent? : List Char → Option Int
  | [] => some 0
  | c :: rest =>
    if c = 'e' ∨ c = 'E' then
      let (negative, digits) := takeSign rest
      match takeDigits 0 0 digits with
      | (n, _ + 1, []) => some (withSign negative n)
      | _ => none
    else none

/-- Reads the magnitude of a decimal number: all digits as one number, with its exponent. -/
def readMagnitude? (cs : List Char) : Option (Nat × Int) :=
  let (whole, wholeCount, rest) := takeDigits 0 0 cs
  let (digits, fractionCount, rest) :=
    match rest with
    | '.' :: fraction => takeDigits whole 0 fraction
    | rest => (whole, 0, rest)
  if wholeCount + fractionCount = 0 then none
  else (readExponent? rest).map fun e => (digits, e - fractionCount)

/-- Reads a decimal number with its sign, or a word for what is none, in any mixture of cases. -/
def readSigned? (cs : List Char) : Option Extended :=
  let (negative, magnitude) := takeSign cs
  let word := String.ofList (magnitude.map Char.toLower)
  if word = "inf" ∨ word = "infinity" then some (.infinity negative)
  else if word = "nan" then some .nan
  else (readMagnitude? magnitude).map fun (digits, exponent) =>
    .ofDouble (Double.ofDecimal negative digits exponent)

/-- Reads a decimal number with space around it, or without space and with underscores in it. -/
def readDecimal? (s : String) : Option Extended :=
  match readSigned? (trimBoth isSpace s.toList) with
  | some d => some d
  | none => (dropUnderscores? false s.toList).bind readSigned?

end DocStore.Text
