/-
  Labels, the parts of a domain name between the points.

  A label is a row of code points.  It is valid if it is composed, does not begin or end with a
  hyphen and has none in the third and fourth place together, does not begin with a mark, holds only
  characters that are permitted where they stand, and has directions that go together.  `check` says
  which of these fails first.

  Two joiners are permitted behind a mark that removes a vowel; the one that keeps letters apart
  also between letters that would join.  A few characters of punctuation are permitted beside
  letters of their script, and the digits of one Arabic row only without those of the other.
-/
import DocStore.DomainName.Direction
import DocStore.DomainName.Fault
import DocStore.DomainName.Joining
import DocStore.DomainName.Permitted
import DocStore.DomainName.Script
import DocStore.Text.Composed

namespace DocStore.DomainName

/-! ## Characters in context

The characters before the one in question are given from its side, so the nearest comes first. -/

/-- Whether a text before a character ends in a mark that removes a vowel. -/
def followsVirama (before : List Nat) : Bool :=
  match before with
  | n :: _ => Text.markClass n = 9
  | [] => false

/-- Whether the next character that is not transparent joins on one of the given sides. -/
def meetsJoining (sides : List Joining) : List Nat → Bool
  | [] => false
  | n :: rest =>
    if joining n = .transparent then meetsJoining sides rest else sides.contains (joining n)

/-- Whether a joiner is permitted between two texts. -/
def isJoinerPermitted (joiner : Nat) (before behind : List Nat) : Bool :=
  followsVirama before ||
    (joiner = 0x200C && meetsJoining [.left, .dual] before &&
      meetsJoining [.right, .dual] behind)

/-- Checks a joiner between two texts.  Of a character that is not known nobody can tell whether it
    removes a vowel, so a joiner behind one makes the whole label malformed. -/
def checkJoiner (joiner : Nat) (before behind : List Nat) : Except Fault Unit :=
  if before.head?.any (direction · = .unknown) then .error .malformed
  else if isJoinerPermitted joiner before behind then .ok ()
  else .error .context

/-- Whether a code point is one of the ten digits used with the Arabic script. -/
def isArabicDigit (n : Nat) : Bool := 0x660 ≤ n && n ≤ 0x669

/-- Whether a code point is one of the ten digits used with the Arabic script in the east. -/
def isEasternDigit (n : Nat) : Bool := 0x6F0 ≤ n && n ≤ 0x6F9

/-- Whether a character that depends on its context is permitted between two texts; `none` if it
    does not depend on its context. -/
def contextPermits? (n : Nat) (before behind : List Nat) : Option Bool :=
  if n = 0xB7 then some (before.head? = some 0x6C && behind.head? = some 0x6C)
  else if n = 0x375 then some (behind.head?.any (Text.inRuns greek))
  else if n = 0x5F3 ∨ n = 0x5F4 then some (before.head?.any (Text.inRuns hebrew))
  else if n = 0x30FB then
    some (before.any (Text.inRuns japanese) || behind.any (Text.inRuns japanese))
  else if isArabicDigit n then some (!(before.any isEasternDigit || behind.any isEasternDigit))
  else if isEasternDigit n then some (!(before.any isArabicDigit || behind.any isArabicDigit))
  else none

/-- Checks the characters behind a text. -/
def checkCharacters (before : List Nat) : List Nat → Except Fault Unit
  | [] => .ok ()
  | n :: rest =>
    if isPermitted n then checkCharacters (n :: before) rest
    else if n = 0x200C ∨ n = 0x200D then
      match checkJoiner n before rest with
      | .ok _ => checkCharacters (n :: before) rest
      | .error fault => .error fault
    else
      match contextPermits? n before rest with
      | some true => checkCharacters (n :: before) rest
      | some false => .error .context
      | none => .error .character

/-! ## Directions -/

/-- Whether the directions of a label go together.  Without a character written to the left they
    always do.  With one, the label has to begin with a letter written to the left, to hold none
    written to the right and numbers of one kind only, and to end, marks apart, with a letter or a
    number. -/
def directionsAgree (directions : List Direction) : Bool :=
  if directions.contains .right || directions.contains .arabicNumber then
    directions.head? = some .right && !directions.contains .left &&
      !(directions.contains .number && directions.contains .arabicNumber) &&
      (directions.reverse.find? (· ≠ .mark)).any [.right, .number, .arabicNumber].contains
  else true

/-- Checks the directions of a label; one that is not known goes with nothing. -/
def checkDirections (label : List Nat) : Except Fault Unit :=
  let directions := label.map direction
  if directions.contains .unknown || !directionsAgree directions then .error .direction else .ok ()

/-! ## Labels -/

/-- Whether the hyphens of a label stand where they may. -/
def hyphensInOrder (label : List Nat) : Bool :=
  (label.drop 2).take 2 ≠ [0x2D, 0x2D] && label.head? ≠ some 0x2D && label.getLast? ≠ some 0x2D

/-- Checks a label. -/
def check (label : List Nat) : Except Fault Unit :=
  if label.isEmpty || 254 < label.length || !Text.isComposed label || !hyphensInOrder label ||
      label.head?.any Text.isMark then
    .error .malformed
  else
    match checkCharacters [] label with
    | .ok _ => checkDirections label
    | .error fault => .error fault

example : (check ("straße".toList.map Char.toNat)).toOption = some () := by decide +kernel
example : (check ("שa".toList.map Char.toNat)).toOption = none := by decide +kernel

end DocStore.DomainName
