/-
  Texts as bytes.

  `encode` is the UTF-8 form of a row of characters.  `decode` reads bytes that need not be
  well-formed: wherever a sequence breaks off or cannot begin, the bytes that belong together so far
  give one replacement character, and reading goes on with the next byte.  What `encode` wrote,
  `decode` reads back.
-/

namespace DocStore.Text.Utf8

/-- The bytes of a row of characters. -/
def encode (cs : List Char) : List UInt8 := cs.flatMap String.utf8EncodeChar

/-- The character that stands for bytes that are none. -/
def replacement : Char := Char.ofNat 0xFFFD

/-- What the first byte of a longer sequence says: how many bytes follow, the bits it gives, and the
    bounds of the second byte, which exclude forms that are too long and code points that are no
    characters. -/
def lead? (b : Nat) : Option (Nat × Nat × Nat × Nat) :=
  if 0xC2 ≤ b ∧ b ≤ 0xDF then some (1, b - 0xC0, 0x80, 0xBF)
  else if b = 0xE0 then some (2, 0, 0xA0, 0xBF)
  else if b = 0xED then some (2, 0xD, 0x80, 0x9F)
  else if 0xE1 ≤ b ∧ b ≤ 0xEF then some (2, b - 0xE0, 0x80, 0xBF)
  else if b = 0xF0 then some (3, 0, 0x90, 0xBF)
  else if 0xF1 ≤ b ∧ b ≤ 0xF3 then some (3, b - 0xF0, 0x80, 0xBF)
  else if b = 0xF4 then some (3, 4, 0x80, 0x8F)
  else none

/-- Whether a byte continues a sequence. -/
def continues (b : UInt8) : Bool := 0x80 ≤ b.toNat && b.toNat ≤ 0xBF

/-- The code point so far with the six bits of a further byte. -/
def extend (n : Nat) (b : UInt8) : Nat := n * 64 + (b.toNat - 0x80)

/-- The characters of a row of bytes. -/
def decode : List UInt8 → List Char
  | [] => []
  | b :: rest =>
    if b.toNat < 0x80 then Char.ofNat b.toNat :: decode rest
    else
      match lead? b.toNat with
      | none => replacement :: decode rest
      | some (count, bits, low, high) =>
        match rest with
        | [] => [replacement]
        | b1 :: rest1 =>
          if b1.toNat < low ∨ high < b1.toNat then replacement :: decode (b1 :: rest1)
          else if count = 1 then Char.ofNat (extend bits b1) :: decode rest1
          else
            match rest1 with
            | [] => [replacement]
            | b2 :: rest2 =>
              if !continues b2 then replacement :: decode (b2 :: rest2)
              else if count = 2 then Char.ofNat (extend (extend bits b1) b2) :: decode rest2
              else
                match rest2 with
                | [] => [replacement]
                | b3 :: rest3 =>
                  if !continues b3 then replacement :: decode (b3 :: rest3)
                  else Char.ofNat (extend (extend (extend bits b1) b2) b3) :: decode rest3

example : decode (encode ['a', 'é', '中', '😀']) = ['a', 'é', '中', '😀'] := by decide +kernel
example : decode [0xC3, 0x41] = [replacement, 'A'] := by decide +kernel

end DocStore.Text.Utf8
