/-
  The direction in which characters are written.

  Letters run to the left or to the right.  Numbers, neutral characters and marks run with what is
  around them.  The table is right for the characters that a domain name may hold, and has those
  that Unicode 14 does not know as unknown.
-/
import DocStore.Text.Mark

namespace DocStore.DomainName

/-- The direction of a character.  Letters that are written from right to left are `right`. -/
inductive Direction where
  | left | right | number | arabicNumber | neutral | mark | unknown
  deriving DecidableEq, Repr, Inhabited

/-- The code points at which the direction changes, nonspacing marks apart, and the direction from
    there on. -/
def directionRuns : List (Nat × Direction) :=
  [(45, .neutral), (48, .number), (97, .left), (183, .neutral), (223, .left), (697, .neutral),
    (699, .left), (710, .neutral), (720, .left), (748, .neutral), (750, .left), (885, .neutral),
    (887, .left), (1480, .unknown), (1488, .right), (1632, .arabicNumber), (1646, .right),
    (1776, .number), (1786, .right), (2191, .unknown), (2208, .right), (2307, .left),
    (2899, .unknown), (2903, .left), (3164, .unknown), (3165, .left), (3292, .unknown),
    (3293, .left), (3315, .unknown), (3330, .left), (3790, .unknown), (3792, .left),
    (6863, .unknown), (6916, .left), (7306, .unknown), (7393, .left), (8204, .neutral),
    (8526, .left), (11823, .neutral), (12293, .left), (12539, .neutral), (12540, .left),
    (42623, .neutral), (42625, .left), (42775, .neutral), (42787, .left), (42888, .neutral),
    (42892, .left), (42957, .unknown), (42961, .left), (42971, .unknown), (42998, .left),
    (65139, .right), (65536, .left), (67008, .unknown), (67072, .left), (67584, .right),
    (67904, .unknown), (67968, .right), (68912, .arabicNumber), (68928, .unknown), (69248, .right),
    (69314, .unknown), (69376, .right), (69632, .left), (70207, .unknown), (70272, .left),
    (70528, .unknown), (70656, .left), (71376, .unknown), (71424, .left), (72544, .unknown),
    (72704, .left), (73136, .unknown), (73440, .left), (73472, .unknown), (73648, .left),
    (78895, .unknown), (82944, .left), (90368, .unknown), (92160, .left), (93504, .unknown),
    (93792, .left), (93883, .unknown), (93952, .left), (94194, .unknown), (94208, .left),
    (100344, .unknown), (100352, .left), (101631, .unknown), (101632, .left), (101641, .unknown),
    (110576, .left), (110898, .unknown), (110928, .left), (110933, .unknown), (110948, .left),
    (122661, .unknown), (123136, .left), (124112, .unknown), (124896, .left), (124928, .right),
    (131072, .left), (177977, .unknown), (177984, .left), (183970, .unknown), (183984, .left),
    (191472, .unknown), (196608, .left), (201552, .unknown)]

/-- The nonspacing marks that run from left to right by themselves. -/
def leftMarks : List Nat := [3263, 3270, 72199, 72200, 72767]

/-- The direction of a character. -/
def direction (n : Nat) : Direction :=
  if leftMarks.contains n then .left
  else if Text.isNonspacing n then .mark
  else Text.valueAt .left directionRuns n

example : direction 0x61 = .left := by decide +kernel
example : direction 0x5D0 = .right := by decide +kernel

end DocStore.DomainName
