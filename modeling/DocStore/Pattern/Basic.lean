/-
  Patterns and what they match.

  A pattern is searched for anywhere in a text, letter for letter with these means: any character
  but the line end, a class of characters, the start of the text, its end (also before one last line
  end), one pattern after another, a choice, repetition, a look at what follows, and the commitment
  to the first way in which a pattern can be taken.

  `take p k s` takes `p` off the front of `s` in the first way after which `k` accepts the rest, and
  answers what `k` does.  The continuation `k` is what makes a sequence one line long: to take `p`
  and then `q` is to take `p` so that the rest can take `q`.  The order of the ways counts only for
  `atomic`: a choice tries its first side first, and a repetition another round first, or, when it
  is reluctant, last.

  A repetition goes on only after a round that has made progress, so it ends after at most as many
  rounds as there are characters.  Positions need no index.  The end is known from what is left, and
  the start from the length of what is left, which is then the length of the whole text.
-/

namespace DocStore

/-- A pattern. -/
inductive Pattern where
  /-- Nothing at all. -/
  | empty
  /-- One given character. -/
  | char (c : Char)
  /-- One character other than the line end. -/
  | any
  /-- One character that lies in one of the ranges, or in none of them when negated. -/
  | range (negated : Bool) (ranges : List (Char × Char))
  /-- The start of the text. -/
  | textStart
  /-- The end of the text, or the place before its last line end. -/
  | textEnd
  /-- The end of the text and nothing else. -/
  | lastEnd
  /-- One pattern after another. -/
  | seq (first second : Pattern)
  /-- One of two patterns. -/
  | alt (first second : Pattern)
  /-- A pattern at least `low` times, and at most `high` times if that is given. -/
  | rep (reluctant : Bool) (low : Nat) (high : Option Nat) (p : Pattern)
  /-- A pattern in the first way only. -/
  | atomic (p : Pattern)
  /-- A place at which a pattern could be taken, or could not when negated. -/
  | ahead (negated : Bool) (p : Pattern)
  deriving DecidableEq, Repr, Inhabited

namespace Pattern

/-- Whether a character lies in one of the ranges. -/
def inRanges (ranges : List (Char × Char)) (c : Char) : Bool :=
  ranges.any fun (low, high) => low ≤ c && c ≤ high

/-- What is done with the rest of a text after a pattern. -/
abbrev Next := List Char → Option (List Char)

/-- Takes a step a given number of times. -/
def times (step : Next → Next) (k : Next) : Nat → Next
  | 0, s => k s
  | n + 1, s => step (times step k n) s

/-- Takes a step up to `fuel` times.  A round without progress is the last. -/
def iterate (reluctant : Bool) (step : Next → Next) (k : Next) : Nat → Next
  | 0, s => k s
  | fuel + 1, s =>
    let again : Next := fun rest =>
      if rest.length < s.length then iterate reluctant step k fuel rest else k rest
    if reluctant then
      match k s with
      | some found => some found
      | none => step again s
    else
      match step again s with
      | some found => some found
      | none => k s

/-- Takes the pattern off the front of `s`, in a text of `total` characters, in the first way after
    which `k` accepts the rest. -/
def take (total : Nat) : Pattern → Next → Next
  | .empty, k, s => k s
  | .char c, k, s =>
    match s with
    | d :: rest => if c = d then k rest else none
    | [] => none
  | .any, k, s =>
    match s with
    | d :: rest => if d ≠ '\n' then k rest else none
    | [] => none
  | .range negated ranges, k, s =>
    match s with
    | d :: rest => if inRanges ranges d ≠ negated then k rest else none
    | [] => none
  | .textStart, k, s => if s.length = total then k s else none
  | .textEnd, k, s => if s = [] ∨ s = ['\n'] then k s else none
  | .lastEnd, k, s => if s = [] then k s else none
  | .seq p q, k, s => take total p (take total q k) s
  | .alt p q, k, s =>
    match take total p k s with
    | some found => some found
    | none => take total q k s
  | .rep reluctant low high p, k, s =>
    times (take total p) (fun rest =>
      iterate reluctant (take total p) k
        (match high with | some n => min (n - low) rest.length | none => rest.length) rest) low s
  | .atomic p, k, s => (take total p some s).bind k
  | .ahead negated p, k, s => if (take total p some s).isSome ≠ negated then k s else none

/-- Whether the pattern matches at the front of `s` or further on. -/
def searchFrom (total : Nat) (p : Pattern) : List Char → Bool
  | [] => (take total p some []).isSome
  | c :: rest => (take total p some (c :: rest)).isSome || searchFrom total p rest

/-- Whether the pattern matches somewhere in the text. -/
def search (p : Pattern) (s : List Char) : Bool := searchFrom s.length p s

/-- A pattern any number of times. -/
def star (p : Pattern) : Pattern := .rep false 0 none p

example : search (.seq (.star (.char 'a')) (.char 'a')) ['a', 'a'] = true := by decide +kernel
example : search (.seq (.atomic (.star (.char 'a'))) (.char 'a')) ['a', 'a'] = false := by
  decide +kernel

end Pattern

end DocStore
