/-
  How letters join with their neighbours.

  In a cursive script a letter joins the one before it, the one behind it, or both; marks and most
  format characters are transparent, so that the letters around them still join.  Each kind is given
  by the code points at which it begins and ends.
-/
import DocStore.Text.Mark

namespace DocStore.DomainName

/-- How a character joins: not at all, on its left, on its right, on both sides, or with its
    neighbours joining through it. -/
inductive Joining where
  | none | left | right | dual | transparent
  deriving DecidableEq, Repr, Inhabited

/-- The code points at which those begin and end that join on both sides. -/
def dualJoining : List Nat :=
  [1568, 1569, 1574, 1575, 1576, 1577, 1578, 1583, 1587, 1600, 1601, 1608, 1609, 1611, 1646, 1648,
    1656, 1672, 1690, 1728, 1729, 1731, 1740, 1741, 1742, 1743, 1744, 1746, 1786, 1789, 1791, 1792,
    1810, 1813, 1818, 1822, 1823, 1832, 1833, 1834, 1835, 1836, 1837, 1839, 1870, 1881, 1884, 1899,
    1901, 1905, 1906, 1907, 1909, 1912, 1914, 1920, 1994, 2027, 2113, 2118, 2120, 2121, 2122, 2132,
    2133, 2134, 2144, 2145, 2146, 2150, 2152, 2153, 2182, 2183, 2185, 2190, 2191, 2192, 2208, 2218,
    2223, 2225, 2227, 2233, 2234, 2249, 6151, 6152, 6176, 6265, 6279, 6313, 6314, 6315, 43072,
    43122, 68288, 68293, 68307, 68311, 68312, 68317, 68318, 68321, 68331, 68335, 68480, 68481,
    68482, 68483, 68486, 68489, 68490, 68492, 68493, 68494, 68496, 68497, 68525, 68527, 68865,
    68898, 68899, 68900, 69315, 69317, 69318, 69320, 69323, 69324, 69424, 69427, 69428, 69445,
    69457, 69460, 69488, 69492, 69494, 69506, 69552, 69553, 69554, 69556, 69560, 69561, 69563,
    69565, 69566, 69568, 69569, 69570, 69572, 69573, 69578, 69579, 125184, 125252]

/-- The code points at which those begin and end that join on the right. -/
def rightJoining : List Nat :=
  [1570, 1574, 1575, 1576, 1577, 1578, 1583, 1587, 1608, 1609, 1649, 1652, 1653, 1656, 1672, 1690,
    1728, 1729, 1731, 1740, 1741, 1742, 1743, 1744, 1746, 1748, 1749, 1750, 1774, 1776, 1808, 1809,
    1813, 1818, 1822, 1823, 1832, 1833, 1834, 1835, 1836, 1837, 1839, 1840, 1869, 1870, 1881, 1884,
    1899, 1901, 1905, 1906, 1907, 1909, 1912, 1914, 2112, 2113, 2118, 2120, 2121, 2122, 2132, 2133,
    2134, 2137, 2151, 2152, 2153, 2155, 2160, 2179, 2190, 2191, 2218, 2221, 2222, 2223, 2225, 2227,
    2233, 2234, 68293, 68294, 68295, 68296, 68297, 68299, 68302, 68307, 68317, 68318, 68321, 68322,
    68324, 68325, 68335, 68336, 68481, 68482, 68483, 68486, 68489, 68490, 68492, 68493, 68494,
    68496, 68497, 68498, 68521, 68525, 68898, 68899, 69314, 69315, 69427, 69428, 69460, 69461,
    69492, 69494, 69556, 69559, 69561, 69563, 69565, 69566, 69570, 69572, 69577, 69578]

/-- The code points at which those begin and end that join on the left. -/
def leftJoining : List Nat :=
  [43122, 43123, 68301, 68302, 68311, 68312, 68864, 68865, 69579, 69580]

/-- The code points at which those begin and end that are transparent and no nonspacing marks. -/
def transparentOthers : List Nat :=
  [173, 174, 1480, 1481, 1564, 1565, 1807, 1808, 2199, 2200, 2899, 2901, 3790, 3791, 6863, 6878,
    6880, 6892, 8203, 8204, 8206, 8208, 8234, 8239, 8288, 8293, 8298, 8304, 65279, 65280, 65529,
    65532, 68969, 68974, 69370, 69376, 70209, 70210, 70587, 70593, 70606, 70607, 70608, 70609,
    70610, 70611, 70625, 70627, 72544, 72545, 72546, 72549, 72550, 72551, 73472, 73474, 73526,
    73531, 73536, 73537, 73538, 73539, 73562, 73563, 78896, 78913, 78919, 78934, 90398, 90410,
    90413, 90416, 113824, 113828, 119155, 119163, 123023, 123024, 124140, 124144, 124398, 124400,
    124643, 124644, 124646, 124647, 124654, 124656, 124661, 124662, 125259, 125260, 917505, 917506,
    917536, 917632]

/-- The one nonspacing mark that letters do not join through. -/
def opaqueMark : Nat := 0x1171E

/-- How a character joins. -/
def joining (n : Nat) : Joining :=
  if n = opaqueMark then .none
  else if Text.inRuns dualJoining n then .dual
  else if Text.inRuns rightJoining n then .right
  else if Text.inRuns leftJoining n then .left
  else if Text.isNonspacing n || Text.inRuns transparentOthers n then .transparent
  else .none

example : joining 0x628 = .dual := by decide
example : joining 0x61 = .none := by decide +kernel

end DocStore.DomainName
