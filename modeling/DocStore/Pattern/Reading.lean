/-
  Reading patterns.

  A choice is a row of sequences with `|` between them, a sequence a row of pieces, and a piece an
  atom with an optional repetition sign.  An atom is a character, `.`, `^`, `$`, a class in square
  brackets, a choice in round ones, or a backslash with what it gives a meaning to here.

  A repetition sign is `*`, `+`, `?`, or two bounds in braces; braces that hold anything else are
  characters.  A further `?` makes the repetition reluctant, and a further `+` commits every round
  of it.  A round bracket may begin with `?` and one of four marks, for a choice that is only a
  bracket, one that is committed, and a look ahead.

  A pattern is refused when a bracket is not closed or not opened, when a repetition sign has
  nothing to repeat or follows another, when bounds or a range run backwards, and when a backslash
  stands before nothing.

  This is not all that patterns can hold.  Characters of words and their edges (`\w`, `\W`, `\b`,
  `\B`), references back to a bracket, looks behind, brackets with names, comments, and flags inside
  a pattern mean something to other readers, and a pattern with one of them is refused here, as is
  one with any other letter behind a backslash that means nothing here.  The patterns that filters
  are compiled to hold none of these; only a pattern that is handed through as it stands can.
-/
import DocStore.Json.Reader
import DocStore.Pattern.Basic
import DocStore.Text.Blank

namespace DocStore.Pattern

/-! ## Backslashes -/

/-- Takes up to `count` characters that have a value in the given base off the front. -/
def takeCode (base : Nat) : Nat → Nat → Nat → List Char → Nat × Nat × List Char
  | 0, n, taken, cs => (n, taken, cs)
  | _, n, taken, [] => (n, taken, [])
  | count + 1, n, taken, c :: rest =>
    match Json.hexValue? c with
    | some d =>
      if d < base then takeCode base count (base * n + d) (taken + 1) rest
      else (n, taken, c :: rest)
    | none => (n, taken, c :: rest)

/-- The character of a code in exactly `width` hexadecimal digits. -/
def readCode? (width : Nat) (cs : List Char) : Option (Char × List Char) :=
  match takeCode 16 width 0 0 cs with
  | (n, taken, rest) =>
    if taken = width ∧ n < 0x110000 then some (Json.charOfCode n, rest) else none

/-- The letters with a backslash that stand for control characters. -/
def controls : List (Char × Nat) :=
  [('a', 7), ('f', 12), ('n', 10), ('r', 13), ('t', 9), ('v', 11)]

/-- The character that a backslash and what follows it stand for.  A digit begins a code in base
    eight: after a zero of up to three digits, otherwise of exactly three, or inside a class of up
    to three. -/
def readEscape? (inClass : Bool) : List Char → Option (Char × List Char)
  | [] => none
  | c :: rest =>
    match controls.lookup c with
    | some n => some (Char.ofNat n, rest)
    | none =>
      if c = 'b' ∧ inClass then some (Char.ofNat 8, rest)
      else if c = 'x' then readCode? 2 rest
      else if c = 'u' then readCode? 4 rest
      else if c = 'U' then readCode? 8 rest
      else if c.isDigit then
        match takeCode 8 3 0 0 (c :: rest) with
        | (n, taken, after) =>
          if n < 256 ∧ 0 < taken ∧ (c = '0' ∨ taken = 3 ∨ inClass) then some (Char.ofNat n, after)
          else none
      else if c.isAlpha then none
      else some (c, rest)

/-- The blanks as ranges. -/
def blankRanges : List (Char × Char) :=
  [('\t', '\r'), (Char.ofNat 28, ' '), (Char.ofNat 0x85, Char.ofNat 0x85),
   (Char.ofNat 0xa0, Char.ofNat 0xa0), (Char.ofNat 0x1680, Char.ofNat 0x1680),
   (Char.ofNat 0x2000, Char.ofNat 0x200a), (Char.ofNat 0x2028, Char.ofNat 0x2029),
   (Char.ofNat 0x202f, Char.ofNat 0x202f), (Char.ofNat 0x205f, Char.ofNat 0x205f),
   (Char.ofNat 0x3000, Char.ofNat 0x3000)]

/-- The digits of all scripts as ranges. -/
def digitRanges : List (Char × Char) :=
  Text.digitZeros.map fun first => (Char.ofNat first, Char.ofNat (first + 9))

/-- The characters outside ranges that are in order, from `from` on. -/
def outside : Nat → List (Char × Char) → List (Char × Char)
  | start, [] => [(Char.ofNat start, Char.ofNat 0x10FFFF)]
  | start, (low, high) :: rest =>
    (if start < low.toNat then [(Char.ofNat start, Char.ofNat (low.toNat - 1))] else []) ++
      outside (high.toNat + 1) rest

/-- The class that a letter with a backslash stands for. -/
def namedClass? (c : Char) : Option (List (Char × Char)) :=
  if c = 'd' then some digitRanges
  else if c = 'D' then some (outside 0 digitRanges)
  else if c = 's' then some blankRanges
  else if c = 'S' then some (outside 0 blankRanges)
  else none

/-! ## Classes -/

/-- A member of a class: a character, or a class of its own. -/
inductive Member where
  | char (c : Char)
  | ranges (rs : List (Char × Char))

/-- The ranges of a member. -/
def Member.toRanges : Member → List (Char × Char)
  | .char c => [(c, c)]
  | .ranges rs => rs

/-- One member of a class, which a backslash may begin. -/
def readMember? : List Char → Option (Member × List Char)
  | [] => none
  | '\\' :: rest =>
    match rest.head?.bind namedClass? with
    | some ranges => some (.ranges ranges, rest.tail)
    | none => (readEscape? true rest).map fun (c, after) => (.char c, after)
  | c :: rest => some (.char c, rest)

/-- The members of a class up to its closing bracket.  A bracket that closes stands for itself when
    it comes first, and a dash at either end. -/
def readClass? :
    Nat → Bool → List (Char × Char) → List Char → Option (List (Char × Char) × List Char)
  | 0, _, _, _ => none
  | _, _, _, [] => none
  | fuel + 1, first, acc, cs@(c :: rest) =>
    if c = ']' ∧ !first then some (acc, rest)
    else
      match readMember? cs with
      | none => none
      | some (low, after) =>
        match after with
        | '-' :: ']' :: _ => readClass? fuel false (low.toRanges ++ acc) after
        | '-' :: more =>
          match low, readMember? more with
          | .char low, some (.char high, last) =>
            if low ≤ high then readClass? fuel false ((low, high) :: acc) last else none
          | _, _ => none
        | _ => readClass? fuel false (low.toRanges ++ acc) after

/-! ## Repetition -/

/-- The bounds of a repetition sign in braces, behind the opening one. -/
def takeBounds? (cs : List Char) : Option (Nat × Option Nat × List Char) :=
  let (low, lowCount, rest) := Text.takeDigits 0 0 cs
  match rest with
  | '\x7d' :: after => if lowCount = 0 then none else some (low, some low, after)
  | ',' :: more =>
    let (high, highCount, rest) := Text.takeDigits 0 0 more
    match rest with
    | '\x7d' :: after => some (low, if highCount = 0 then none else some high, after)
    | _ => none
  | _ => none

/-- The bounds of the repetition sign at the front, if there is one. -/
def takeRepeat? : List Char → Option (Nat × Option Nat × List Char)
  | [] => none
  | c :: rest =>
    if c = '*' then some (0, none, rest)
    else if c = '+' then some (1, none, rest)
    else if c = '?' then some (0, some 1, rest)
    else if c = '\x7b' then takeBounds? rest
    else none

/-- The repetition of an atom, with the mark behind the repetition sign. -/
def applyMark (low : Nat) (high : Option Nat) (atom : Pattern) :
    List Char → Pattern × List Char
  | '?' :: rest => (.rep true low high atom, rest)
  | '+' :: rest => (.atomic (.rep false low high (.atomic atom)), rest)
  | rest => (.rep false low high atom, rest)

/-- Applies the repetition sign at the front, if there is one, to an atom.  A place cannot be
    repeated, and neither can a repetition. -/
def readRepeat? (isPlace : Bool) (atom : Pattern) (cs : List Char) :
    Option (Pattern × List Char) :=
  match takeRepeat? cs with
  | none => some (atom, cs)
  | some (low, high, rest) =>
    let (p, after) := applyMark low high atom rest
    if isPlace || high.any (· < low) || (takeRepeat? after).isSome then none else some (p, after)

/-! ## Pieces and sequences -/

/-- What the beginning of a round bracket makes of the choice in it, and the rest; none for a mark
    that is not read. -/
def takeBracketMark? : List Char → Option ((Pattern → Pattern) × List Char)
  | '?' :: ':' :: rest => some (id, rest)
  | '?' :: '>' :: rest => some (.atomic, rest)
  | '?' :: '=' :: rest => some (.ahead false, rest)
  | '?' :: '!' :: rest => some (.ahead true, rest)
  | '?' :: _ => none
  | rest => some (id, rest)

/-- A character with a meaning of its own for a pattern, as the place that it stands for. -/
def place? (c : Char) : Option Pattern :=
  if c = '^' then some .textStart
  else if c = '$' then some .textEnd
  else none

mutual

/-- A choice. -/
def readChoice? : Nat → List Char → Option (Pattern × List Char)
  | 0, _ => none
  | fuel + 1, cs =>
    match readSequence? fuel cs with
    | none => none
    | some (p, '|' :: rest) => (readChoice? fuel rest).map fun (q, after) => (.alt p q, after)
    | some (p, rest) => some (p, rest)

/-- A sequence, which ends before a `|`, before a closing bracket, or with the text. -/
def readSequence? : Nat → List Char → Option (Pattern × List Char)
  | 0, _ => none
  | _, [] => some (.empty, [])
  | fuel + 1, c :: rest =>
    if c = '|' ∨ c = ')' then some (.empty, c :: rest)
    else
      match readAtom? fuel (c :: rest) with
      | none => none
      | some (isPlace, atom, after) =>
        match readRepeat? isPlace atom after with
        | none => none
        | some (piece, after) =>
          (readSequence? fuel after).map fun (q, last) => (.seq piece q, last)

/-- An atom, and whether it is a place rather than characters. -/
def readAtom? : Nat → List Char → Option (Bool × Pattern × List Char)
  | 0, _ => none
  | _, [] => none
  | fuel + 1, c :: rest =>
    match place? c with
    | some p => some (true, p, rest)
    | none =>
      if c = '.' then some (false, .any, rest)
      else if (takeRepeat? (c :: rest)).isSome then none
      else if c = '\\' then
        match rest with
        | 'A' :: after => some (true, .textStart, after)
        | 'Z' :: after => some (true, .lastEnd, after)
        | _ =>
          match rest.head?.bind namedClass? with
          | some ranges => some (false, .range false ranges, rest.tail)
          | none => (readEscape? false rest).map fun (e, after) => (false, .char e, after)
      else if c = '[' then
        match rest with
        | '^' :: inside =>
          (readClass? (inside.length + 1) true [] inside).map fun (rs, after) =>
            (false, .range true rs, after)
        | inside =>
          (readClass? (inside.length + 1) true [] inside).map fun (rs, after) =>
            (false, .range false rs, after)
      else if c = '(' then
        match takeBracketMark? rest with
        | none => none
        | some (mark, inside) =>
          match readChoice? fuel inside with
          | some (p, ')' :: after) => some (false, mark p, after)
          | _ => none
      else some (false, .char c, rest)

end

/-- Reads a whole text as a pattern. -/
def read? (cs : List Char) : Option Pattern :=
  match readChoice? (3 * cs.length + 3) cs with
  | some (p, []) => some p
  | _ => none

example : (read? ['a', '*', '+']).isSome = true := by decide +kernel
example : read? ['a', '*', '*'] = none := by decide +kernel

end DocStore.Pattern
