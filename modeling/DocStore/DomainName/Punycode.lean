/-
  Code points written in letters, digits and hyphens.

  The code points below 128 come first as they are, with a hyphen behind them if there are any.
  Each of the others follows as a number: how far one has to count on from the last one written,
  going through all places in the text for one code point before the next.  Such a number is written
  in digits of base 36, the lowest first; a digit below the threshold of its place ends it.  The
  thresholds follow a bias that adapts to the numbers written so far.
-/

namespace DocStore.DomainName.Punycode

/-- The digit of a value below 36: the letters come before the figures. -/
def digit (value : Nat) : Char :=
  if value < 26 then Char.ofNat (97 + value) else Char.ofNat (22 + value)

/-- The value of a digit. -/
def digitValue? (c : Char) : Option Nat :=
  let n := c.toNat
  if 97 ≤ n ∧ n ≤ 122 then some (n - 97)
  else if 65 ≤ n ∧ n ≤ 90 then some (n - 65)
  else if 48 ≤ n ∧ n ≤ 57 then some (n - 22)
  else none

/-- The threshold at a place; places count in steps of 36. -/
def threshold (bias place : Nat) : Nat := min 26 (max 1 (place - bias))

/-- Divides by 35 until at most 455 is left; counts in steps of 36 how often.  Each division takes
    something away, so `fuel` is enough if it is the number itself. -/
def scaleDown : (fuel : Nat) → (delta steps : Nat) → Nat × Nat
  | 0, delta, steps => (delta, steps)
  | fuel + 1, delta, steps =>
    if 455 < delta then scaleDown fuel (delta / 35) (steps + 36) else (delta, steps)

/-- The bias after a number; `count` code points have been written by then. -/
def adapt (delta count : Nat) (isFirst : Bool) : Nat :=
  let halved := if isFirst then delta / 700 else delta / 2
  let scaled := halved + halved / count
  let (rest, steps) := scaleDown scaled scaled 0
  steps + 36 * rest / (rest + 38)

/-! ## Writing -/

/-- A number in digits, from a place on.  A threshold is at least one, so the number gets smaller
    with each digit, and `fuel` is enough if it is greater than the number. -/
def digits (bias : Nat) : (fuel : Nat) → (place number : Nat) → List Char
  | 0, _, _ => []
  | fuel + 1, place, number =>
    let t := threshold bias place
    if number < t then [digit number]
    else
      digit (t + (number - t) % (36 - t)) ::
        digits bias fuel (place + 36) ((number - t) / (36 - t))

/-- The state of writing: what is written, how far to count on, the bias, and the code points
    done. -/
structure Writing where
  written : List Char
  delta : Nat
  bias : Nat
  done : Nat

/-- Passes a place of the text while `current` is the code point to be written. -/
def Writing.pass (basics current : Nat) (w : Writing) (n : Nat) : Writing :=
  if n < current then { w with delta := w.delta + 1 }
  else if n = current then
    ⟨w.written ++ digits w.bias (w.delta + 1) 36 w.delta, 0,
      adapt w.delta (w.done + 1) (w.done = basics), w.done + 1⟩
  else w

/-- Writes the code points given in order, counting on from `last`. -/
def Writing.goThrough (text : List Nat) (basics : Nat) : Nat → List Nat → Writing → Writing
  | _, [], w => w
  | last, current :: rest, w =>
    let ahead := { w with delta := w.delta + (current - last) * (w.done + 1) }
    let passed := text.foldl (Writing.pass basics current) ahead
    goThrough text basics (current + 1) rest { passed with delta := passed.delta + 1 }

/-- Puts a code point in its place among others that are in order, once. -/
def insertNew (n : Nat) : List Nat → List Nat
  | [] => [n]
  | m :: rest =>
    if n < m then n :: m :: rest else if n = m then m :: rest else m :: insertNew n rest

/-- The written form of a text. -/
def encode (text : List Nat) : List Char :=
  let basics := text.filter (· < 128)
  let others := (text.filter (128 ≤ ·)).foldr insertNew []
  let start : Writing := ⟨[], 0, 72, basics.length⟩
  basics.map Char.ofNat ++ (if basics.isEmpty then [] else ['-']) ++
    (Writing.goThrough text basics.length 128 others start).written

example : encode ("bücher".toList.map Char.toNat) = "bcher-kva".toList := by decide +kernel

/-! ## Reading -/

/-- Reads a number from a place on, whose digits count `weight` there. -/
def number? (bias : Nat) : (place weight total : Nat) → List Char → Option (Nat × List Char)
  | _, _, _, [] => none
  | place, weight, total, c :: rest =>
    match digitValue? c with
    | none => none
    | some d =>
      let t := threshold bias place
      if d < t then some (total + d * weight, rest)
      else number? bias (place + 36) (weight * (36 - t)) (total + d * weight) rest

/-- Puts a code point in at a place. -/
def insertAt (n : Nat) (place : Nat) (text : List Nat) : List Nat :=
  text.take place ++ n :: text.drop place

/-- Reads numbers and puts the code points they stand for into the text, counting on from the code
    point `current` and a place.  Each number has at least one digit, so `fuel` is enough if it is
    the number of digits left. -/
def readNumbers : (fuel : Nat) → (current place bias : Nat) → (isFirst : Bool) → List Nat →
    List Char → Option (List Nat)
  | _, _, _, _, _, text, [] => some text
  | 0, _, _, _, _, _, _ :: _ => none
  | fuel + 1, current, place, bias, isFirst, text, c :: rest =>
    match number? bias 36 1 0 (c :: rest) with
    | none => none
    | some (delta, rest) =>
      let count := text.length + 1
      let current := current + (place + delta) / count
      let place := (place + delta) % count
      if 0x10FFFF < current then none
      else
        readNumbers fuel current (place + 1) (adapt delta count isFirst) false
          (insertAt current place text) rest

/-- The text that a written form stands for.  What stands before the last hyphen stands for
    itself. -/
def decode? (cs : List Char) : Option (List Nat) :=
  match cs.reverse.span (· ≠ '-') with
  | (numbers, _ :: basics) =>
    readNumbers cs.length 128 0 72 true (basics.reverse.map Char.toNat) numbers.reverse
  | (numbers, []) => readNumbers cs.length 128 0 72 true [] numbers.reverse

example : decode? "bcher-kva".toList = some ("bücher".toList.map Char.toNat) := by decide +kernel

end DocStore.DomainName.Punycode
