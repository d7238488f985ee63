/-
  Domain names in ASCII.

  The labels of a domain name are cut at points, of which there are four; a point at the end leaves
  no empty label behind it.  A label in ASCII stays as it is.  Any other is written in letters,
  digits and hyphens behind the four characters `xn--`.  Every label has to be valid, the ones that
  are in the written form already included, and must not be longer than 63 characters; the whole
  must not be longer than 253, not counting a point at the end.
-/
import DocStore.DomainName.Label
import DocStore.DomainName.Punycode
import DocStore.Text.Split

namespace DocStore.DomainName

/-- The characters that stand in front of the written form of a label. -/
def marker : List Char := ['x', 'n', '-', '-']

/-- Whether a character is a point between labels. -/
def isPoint (c : Char) : Bool := [0x2E, 0x3002, 0xFF0E, 0xFF61].contains c.toNat

/-- The labels of a domain name, and whether there is a point at its end. -/
def labels (name : List Char) : List (List Char) × Bool :=
  let parts := Text.splitAt '.' (name.map fun c => if isPoint c then '.' else c)
  if parts.getLast? = some [] then (parts.dropLast, true) else (parts, false)

/-- Reads a label that is in ASCII: one behind the marker is taken out of the written form, which
    has to be the one in which its text would be written again. -/
def readLabel (label : List Char) : Except Fault (List Nat) :=
  let small := label.map Char.toLower
  if marker.isPrefixOf small then
    let written := small.drop marker.length
    if written.isEmpty || written.getLast? = some '-' then .error .malformed
    else
      match Punycode.decode? written with
      | some points =>
        if Punycode.encode points = written then (check points).map fun _ => points
        else .error .malformed
      | none => .error .malformed
  else (check (small.map Char.toNat)).map fun _ => small.map Char.toNat

/-- A label in ASCII. -/
def writeLabel (label : List Char) : Except Fault (List Char) := do
  let points := label.map Char.toNat
  let written ←
    if points.all (· < 128) then (readLabel label).map fun _ => label
    else (check points).map fun _ => marker ++ Punycode.encode points
  if written.length ≤ 63 then return written else throw .malformed

/-- A domain name in ASCII. -/
def encode (name : List Char) : Except Fault (List Char) := do
  if 254 < name.length || name.isEmpty then throw .malformed
  let (parts, ended) := labels name
  let written ← parts.mapM writeLabel
  let whole := ['.'].intercalate (written ++ if ended then [[]] else [])
  if whole.length ≤ (if ended then 254 else 253) then return whole else throw .malformed

example : (encode "bücher.example".toList).toOption = some "xn--bcher-kva.example".toList := by
  decide +kernel
example : (encode "☃.net".toList).toOption = none := by decide +kernel

/-- The labels of a domain name in ASCII. -/
def decode (name : List Char) : Except Fault (List (List Nat)) :=
  if 254 < name.length || name.isEmpty then .error .malformed else (labels name).1.mapM readLabel

end DocStore.DomainName
