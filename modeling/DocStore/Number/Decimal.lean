/-
  Decimal text of doubles, in both directions.

  Writing chooses the fewest digits that read back as the same number, and among texts of that
  length the one nearest to it.  The numbers that round to a given double form an interval around
  it, half way to each neighbour, with its ends included iff the significand is even.  On the grid
  of decimals with k digits only the two neighbours of the value can be the nearest, so `shortest`
  tries k = 1, 2, …, 17 and takes the first grid on which one of them lies in the interval.

  Layout is a separate decision: positional for exponents from -4 to 15, otherwise one digit before
  the point and an exponent of at least two digits with its sign.

  Reading is left to `Double.ofDecimal`, applied to the digits and the exponent of the text.
-/
import DocStore.Number.Double

namespace DocStore

namespace Double

/-- The number of decimal digits of `n`, and 0 for 0. -/
def digitCount (n : Nat) : Nat := if n = 0 then 0 else (Nat.toDigits 10 n).length

/-- The exponent of the leading decimal digit of `num / den`, for a positive ratio. -/
def leadingExponent (num den : Nat) : Int :=
  if den ≤ num then (digitCount (num / den) : Int) - 1
  else -(digitCount ((den + num - 1) / num - 1) : Int)

/-- Whether `candidate · 10^exponent` lies between `low / den` and `high / den`, ends included when
    `closed`. -/
def liesBetween (low high den candidate : Nat) (exponent : Int) (closed : Bool) : Bool :=
  let (value, unit) :=
    match exponent with
    | .ofNat e => (candidate * Nat.pow 10 e * den, 1)
    | .negSucc e => (candidate * den, Nat.pow 10 (e + 1))
  if closed then low * unit ≤ value && value ≤ high * unit
  else low * unit < value && value < high * unit

/-- The two neighbours of `num / den` on the grid of multiples of `10^exponent`, the nearer first
    (of two equally near, the even one). -/
def gridNeighbours (num den : Nat) (exponent : Int) : List Nat :=
  let (top, bottom) :=
    match exponent with
    | .ofNat e => (num, den * Nat.pow 10 e)
    | .negSucc e => (num * Nat.pow 10 (e + 1), den)
  let below := top / bottom
  let nearest := roundHalfEven top bottom
  [nearest, if nearest = below then below + 1 else below]

/-- The fewest digits that read back as `d`, with the exponent of their last place.  The value and
    the ends of its interval are counted in quarters of a unit, which makes all of them whole. -/
def shortest (d : Double) : Nat × Int :=
  let value := 4 * d.magnitude
  let step := Nat.pow 2 d.scale
  let high := value + 2 * step
  let low := if d.significand = Nat.pow 2 52 && 0 < d.scale then value - step else value - 2 * step
  let den := 4 * unitsPerOne
  let leading := leadingExponent value den
  let found := (List.range 17).findSome? fun (k : Nat) =>
    let exponent := leading - k
    ((gridNeighbours value den exponent).find? fun c =>
      liesBetween low high den c exponent (d.significand % 2 = 0)).map fun c => (c, exponent)
  found.getD (0, 0)

/-- Digits without the zeros at their end, and the exponent of the last one left. -/
def dropZeros : Nat → Nat → Int → Nat × Int
  | 0, n, e => (n, e)
  | fuel + 1, n, e => if n ≠ 0 ∧ n % 10 = 0 then dropZeros fuel (n / 10) (e + 1) else (n, e)

/-- A run of `n` zeros. -/
def zeros (n : Nat) : String := String.ofList (List.replicate n '0')

/-- Lays out digits whose leading one has the given exponent. -/
def layout (digits : List Char) (leading : Int) : String :=
  if -4 ≤ leading ∧ leading < 16 then
    match leading with
    | .negSucc e => "0." ++ zeros e ++ String.ofList digits
    | .ofNat e =>
      let whole := digits.take (e + 1)
      let rest := digits.drop (e + 1)
      String.ofList whole ++ zeros (e + 1 - whole.length) ++ "." ++
        (if rest.isEmpty then "0" else String.ofList rest)
  else
    let tail := digits.drop 1
    let power := toString leading.natAbs
    String.ofList (digits.take 1) ++ (if tail.isEmpty then "" else "." ++ String.ofList tail) ++
      "e" ++ (if leading < 0 then "-" else "+") ++ zeros (2 - power.length) ++ power

/-- The text of a double: the fewest digits that read back, always with a point or an exponent. -/
def toText (d : Double) : String :=
  let sign := if d.negative then "-" else ""
  if d.significand = 0 then sign ++ "0.0"
  else
    let (n, e) := d.shortest
    let (n, e) := dropZeros 20 n e
    let digits := Nat.toDigits 10 n
    sign ++ layout digits (e + digits.length - 1)

example : (ofDecimal false 25 (-1)).toText = "2.5" := by decide +kernel
example : (ofInt (10 ^ 16)).toText = "1e+16" := by decide +kernel

end Double

end DocStore
