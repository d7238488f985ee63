/-
  Percent coding.

  In a segment of a path, a byte of the UTF-8 form of a text stands for itself if it is a letter, a
  digit or one of four marks, and is otherwise written as a percent sign and two hexadecimal digits.
  A slash in a text is therefore never a slash of the path.  In a query the space is a plus sign.

  A part of an address that is taken over as it was given keeps more: all that could not be mistaken
  for the end of the part, and the percent sign, which keeps its meaning.

  Decoding takes a percent sign with two hexadecimal digits for the byte and leaves any other
  percent sign as it is; the bytes are then read as UTF-8.
-/
import DocStore.Json.Reader
import DocStore.Text.Utf8

namespace DocStore.Http

/-- Whether a byte stands for itself wherever it occurs. -/
def isUnreserved (b : UInt8) : Bool :=
  let n := b.toNat
  (48 ≤ n && n ≤ 57) || (65 ≤ n && n ≤ 90) || (97 ≤ n && n ≤ 122) ||
    n == 45 || n == 46 || n == 95 || n == 126

/-- The digit `n` in base sixteen, in upper case. -/
def upperHexDigit (n : Nat) : Char := if n < 10 then Char.ofNat (48 + n) else Char.ofNat (55 + n)

/-- A byte as a percent sign and two digits. -/
def percentByte (b : UInt8) : List Char :=
  ['%', upperHexDigit (b.toNat / 16), upperHexDigit (b.toNat % 16)]

/-- Bytes in percent coding, those kept that satisfy `keep`. -/
def encodeBytes (keep : UInt8 → Bool) (bytes : List UInt8) : List Char :=
  bytes.flatMap fun b => if keep b then [Char.ofNat b.toNat] else percentByte b

/-- A text as one segment of a path. -/
def encodeSegment (s : String) : List Char :=
  encodeBytes isUnreserved (Text.Utf8.encode s.toList)

/-- A text as a value in a query. -/
def encodeQueryValue (s : String) : List Char :=
  (Text.Utf8.encode s.toList).flatMap fun b =>
    if b = 0x20 then ['+'] else encodeBytes isUnreserved [b]

/-- The bytes that percent-coded bytes stand for. -/
def decodeBytes : List UInt8 → List UInt8
  | [] => []
  | b :: rest =>
    if b = 0x25 then
      match rest with
      | h :: l :: more =>
        match Json.hexValue? (Char.ofNat h.toNat), Json.hexValue? (Char.ofNat l.toNat) with
        | some high, some low => UInt8.ofNat (16 * high + low) :: decodeBytes more
        | _, _ => b :: decodeBytes (h :: l :: more)
      | short => b :: short
    else b :: decodeBytes rest

/-- The text that a percent-coded text stands for. -/
def percentDecode (cs : List Char) : List Char :=
  Text.Utf8.decode (decodeBytes (Text.Utf8.encode cs))

/-! ## Parts of addresses -/

/-- Whether a byte is a visible character of ASCII other than the given ones. -/
def isVisibleBut (others : List Nat) (b : UInt8) : Bool :=
  33 ≤ b.toNat && b.toNat ≤ 126 && !others.contains b.toNat

/-- Whether a fragment keeps a byte: not quotes, angle brackets and the grave accent. -/
def isFragmentByte : UInt8 → Bool := isVisibleBut [34, 60, 62, 96]

/-- Whether a query keeps a byte: not quotes, the number sign and angle brackets. -/
def isQueryByte : UInt8 → Bool := isVisibleBut [34, 35, 60, 62]

/-- Whether a path keeps a byte: not the ones that a query does not keep, nor the question mark, the
    grave accent and braces. -/
def isPathByte : UInt8 → Bool := isVisibleBut [34, 35, 60, 62, 63, 96, 123, 125]

/-- Whether a user with a password keeps a byte: not the ones that a path does not keep, nor
    slashes, semicolon, equals and at signs, square brackets, the circumflex and the bar. -/
def isUserByte : UInt8 → Bool :=
  isVisibleBut [34, 35, 60, 62, 63, 96, 123, 125, 47, 59, 61, 64, 91, 92, 93, 94, 124]

/-- Whether the name of a host keeps a byte: not angle brackets, square brackets, the colon, the at
    sign and the circumflex, nor the slash, the question mark and the number sign. -/
def isHostByte : UInt8 → Bool := isVisibleBut [60, 62, 91, 93, 58, 64, 94, 47, 63, 35]

/-- A text in percent coding but for the bytes that satisfy `keep`. -/
def encodePart (keep : UInt8 → Bool) (cs : List Char) : List Char :=
  encodeBytes keep (Text.Utf8.encode cs)

example : encodeSegment "a/é" = "a%2F%C3%A9".toList := by decide +kernel
example : percentDecode "a%2F%zz".toList = "a/%zz".toList := by decide +kernel

end DocStore.Http
