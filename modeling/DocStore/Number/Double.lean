/-
  Binary floating-point numbers as exact data.

  A `Double` is sign, significand and scale and stands for the number

      ± significand · 2^scale · 2^(-1074)

  so that every finite 64-bit number has a form whose scale is a natural number: 2^(-1074) is the
  smallest positive one.  Documents only carry these numbers; they are compared, read and written,
  and never added or multiplied.  Because the meaning is exact, an integer and a double are compared
  as what they are: both are counted in units of 2^(-1074), and the counts are integers (`units`).

  `Double.ofRatio` is the single place that rounds: the nearest double, a tie going to the even
  significand.  It knows no largest number; `Extended.ofDouble` turns what is too large for 64 bits
  into an infinity.
-/

namespace DocStore

/-- A finite floating-point number, exactly. -/
structure Double where
  negative : Bool
  significand : Nat
  scale : Nat
  deriving DecidableEq, Repr, Inhabited

namespace Double

/-- One in units of the smallest positive double. -/
def unitsPerOne : Nat := Nat.pow 2 1074

/-- The magnitude in units of the smallest positive double. -/
def magnitude (d : Double) : Nat := d.significand * Nat.pow 2 d.scale

/-- The value in units of the smallest positive double. -/
def units (d : Double) : Int := if d.negative then -(d.magnitude : Int) else d.magnitude

/-- The nearest whole number to `num / den`; a half goes to the even neighbour. -/
def roundHalfEven (num den : Nat) : Nat :=
  let whole := num / den
  let rest := num % den
  if 2 * rest < den then whole
  else if den < 2 * rest then whole + 1
  else if whole % 2 = 0 then whole
  else whole + 1

/-- The double nearest to `± num / den`, a tie going to the even significand.  A significand has 53
    bits, so the scale is what the whole part of the count of units has beyond them. -/
def ofRatio (negative : Bool) (num den : Nat) : Double :=
  let count := num * unitsPerOne
  let scale := Nat.log2 (count / den) + 1 - 53
  let significand := roundHalfEven count (den * Nat.pow 2 scale)
  if significand = Nat.pow 2 53 then ⟨negative, Nat.pow 2 52, scale + 1⟩
  else ⟨negative, significand, scale⟩

/-- The double nearest to `± digits · 10^exponent`.  Beyond the exponents that a 64-bit number
    reaches the power of ten is cut, which changes no rounded value on the side of zero. -/
def ofDecimal (negative : Bool) (digits : Nat) (exponent : Int) : Double :=
  if digits = 0 then ⟨negative, 0, 0⟩
  else
    let size : Int := (Nat.log2 digits / 3 : Nat)
    if exponent < -800 - size then ⟨negative, 0, 0⟩
    else match min exponent 800 with
      | .ofNat e => ofRatio negative (digits * Nat.pow 10 e) 1
      | .negSucc e => ofRatio negative digits (Nat.pow 10 (e + 1))

/-- The double nearest to an integer. -/
def ofInt (n : Int) : Double := ofRatio (n < 0) n.natAbs 1

example : (ofInt (2 ^ 53 + 1)).units = 2 ^ 53 * unitsPerOne := by decide +kernel

/-- The scale of the largest numbers that have 64 bits. -/
def maxScale : Nat := 2045

/-- Whether the number is small enough for 64 bits. -/
def isFinite (d : Double) : Bool := d.scale ≤ maxScale

example : (ofInt (Nat.pow 2 1024 - Nat.pow 2 970)).isFinite = false := by decide +kernel

/-- Whether the number is zero, of either sign. -/
def isZero (d : Double) : Bool := d.significand = 0

/-- The integer that the number is, if it has no fractional part. -/
def toInt? (d : Double) : Option Int :=
  if d.magnitude % unitsPerOne = 0 then some (d.units / unitsPerOne) else none

/-- The integer part, without what stands behind the point. -/
def truncate (d : Double) : Int :=
  if d.negative then -((d.magnitude / unitsPerOne : Nat) : Int)
  else (d.magnitude / unitsPerOne : Nat)

/-- The number less a whole number, rounded to the nearest double. -/
def less (d : Double) (n : Nat) : Double :=
  let units := d.units - (n * unitsPerOne : Nat)
  ofRatio (units < 0) units.natAbs unitsPerOne

end Double

/-! ## Infinities -/

/-- What the text of a number may stand for: a finite number, one of the two infinities, or no
    number at all. -/
inductive Extended where
  | finite (d : Double)
  | infinity (negative : Bool)
  | nan
  deriving DecidableEq, Repr, Inhabited

namespace Extended

/-- A rounded number; what is too large for 64 bits is infinite. -/
def ofDouble (d : Double) : Extended := if d.isFinite then .finite d else .infinity d.negative

/-- Whether the number is greater than zero. -/
def isPositive : Extended → Bool
  | .finite d => 0 < d.units
  | .infinity negative => !negative
  | .nan => false

end Extended

end DocStore
