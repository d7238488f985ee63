/-
  JSON text as bytes.

  The first characters of JSON text are ASCII, so the zeros among the first bytes tell in what units
  it is written: four bytes for a character, two, or one.  A mark at the beginning says the last and
  is dropped.  Two units of two bytes may make one character, and half of such a pair stands for the
  replacement character.
-/
import DocStore.Json.Reader
import DocStore.Text.Utf8

namespace DocStore.Json

/-- How the bytes of a text are to be taken. -/
inductive Units where
  | bytes | pairs (bigEndian : Bool) | fours (bigEndian : Bool)
  deriving DecidableEq, Repr, Inhabited

/-- The units of a text, by the zeros among its first bytes. -/
def Units.of : List UInt8 → Units
  | a :: b :: c :: d :: _ =>
    if a = 0 then if b = 0 then .fours true else .pairs true
    else if b = 0 then if c = 0 ∧ d = 0 then .fours false else .pairs false
    else .bytes
  | [a, b] => if a = 0 then .pairs true else if b = 0 then .pairs false else .bytes
  | _ => .bytes

/-- The numbers that pairs of bytes make; none if a byte is left over. -/
def pairUnits? (bigEndian : Bool) : List UInt8 → Option (List Nat)
  | [] => some []
  | a :: b :: rest =>
    let unit := if bigEndian then a.toNat * 256 + b.toNat else b.toNat * 256 + a.toNat
    (pairUnits? bigEndian rest).map (unit :: ·)
  | _ => none

/-- The characters of a row of units of two bytes. -/
def charsOfPairs : List Nat → List Char
  | [] => []
  | high :: rest =>
    if 0xD800 ≤ high ∧ high < 0xDC00 then
      match rest with
      | low :: more =>
        if 0xDC00 ≤ low ∧ low < 0xE000 then
          Char.ofNat (0x10000 + (high - 0xD800) * 0x400 + (low - 0xDC00)) :: charsOfPairs more
        else charOfCode high :: charsOfPairs (low :: more)
      | [] => [charOfCode high]
    else charOfCode high :: charsOfPairs rest

/-- The characters of groups of four bytes; none if bytes are left over or a number is too large for
    a character. -/
def charsOfFours? (bigEndian : Bool) : List UInt8 → Option (List Char)
  | [] => some []
  | a :: b :: c :: d :: rest =>
    let code :=
      if bigEndian then ((a.toNat * 256 + b.toNat) * 256 + c.toNat) * 256 + d.toNat
      else ((d.toNat * 256 + c.toNat) * 256 + b.toNat) * 256 + a.toNat
    if code < 0x110000 then (charsOfFours? bigEndian rest).map (charOfCode code :: ·) else none
  | _ => none

/-- The characters of JSON text given as bytes. -/
def charsOfBytes? (bytes : List UInt8) : Option (List Char) :=
  match bytes with
  | 0xEF :: 0xBB :: 0xBF :: rest => some (Text.Utf8.decode rest)
  | _ =>
    match Units.of bytes with
    | .bytes => some (Text.Utf8.decode bytes)
    | .pairs bigEndian => (pairUnits? bigEndian bytes).map charsOfPairs
    | .fours bigEndian => charsOfFours? bigEndian bytes

example : charsOfBytes? [0x7B, 0, 0x7D, 0] = some ['\x7b', '\x7d'] := by decide +kernel
example : charsOfBytes? [0x7B, 0, 0x7D, 0, 0x20] = none := by decide +kernel

end DocStore.Json
