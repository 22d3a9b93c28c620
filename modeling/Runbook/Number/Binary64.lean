/-!
# Double-precision numbers

A finite binary floating-point number of 64 bits, held as what it denotes: a sign and a value
`significand * 2 ^ exponent`. Holding the sign apart keeps the two zeros distinct. All operations
are exact arithmetic on natural numbers followed by one rounding, `ofRatio?`, to the nearest such
number with ties to the even significand.

The format bounds the two parts: the significand has at most 53 binary digits, and exactly 53 unless
the exponent is the least one.

Scope. Infinities and the undefined number are not values of this type: an operation whose result
would be one of them returns `none`.
-/

set_option autoImplicit false

namespace Runbook.Number

/-- A finite double-precision number: `± significand * 2 ^ exponent`. -/
structure Binary64 where
  negative : Bool
  significand : Nat
  exponent : Int
deriving DecidableEq, Repr

namespace Binary64

/-- The least exponent of the format, that of the numbers nearest to zero. -/
def minExponent : Int := -1074

/-- The greatest exponent of the format. -/
def maxExponent : Int := 971

/-- The least significand with 53 binary digits, which is a power of two. -/
def leastFull : Nat := 0x10000000000000

/-- Zero of either sign. -/
def zero (negative : Bool) : Binary64 := ⟨negative, 0, minExponent⟩

/-- Whether the number is a zero of either sign. -/
def isZero (x : Binary64) : Bool := x.significand == 0

/-- Whether the number is strictly below zero, which negative zero is not. -/
def isBelowZero (x : Binary64) : Bool := x.negative && !x.isZero

/-- The magnitude as a fraction: numerator and a denominator that is a power of two. -/
def magnitude (x : Binary64) : Nat × Nat :=
  if 0 ≤ x.exponent then (x.significand <<< x.exponent.toNat, 1)
  else (x.significand, 1 <<< (-x.exponent).toNat)

/-- The whole part of the magnitude. -/
def wholePart (x : Binary64) : Nat := x.magnitude.1 / x.magnitude.2

/-- Whether the number has no fractional part. -/
def isWhole (x : Binary64) : Bool := x.magnitude.1 % x.magnitude.2 == 0

/-- The quotient rounded to the nearest whole number, a half going to the even neighbour. -/
def divideToEven (numerator denominator : Nat) : Nat :=
  let quotient := numerator / denominator
  let twice := 2 * (numerator % denominator)
  if twice > denominator || (twice == denominator && quotient % 2 == 1) then quotient + 1
  else quotient

/-- The greatest `e` with `2 ^ e ≤ numerator / denominator`, for a positive fraction. -/
def floorLog2 (numerator denominator : Nat) : Int :=
  let guess : Int := (Nat.log2 numerator : Int) - (Nat.log2 denominator : Int)
  let reached :=
    if 0 ≤ guess then denominator <<< guess.toNat ≤ numerator
    else denominator ≤ numerator <<< (-guess).toNat
  if reached then guess else guess - 1

/-- The number nearest to `± numerator / denominator`, of two equally near the one with the even
significand; `none` when that lies beyond the greatest finite number. The denominator must be
positive. -/
def ofRatio? (negative : Bool) (numerator denominator : Nat) : Option Binary64 :=
  if numerator = 0 then some (zero negative)
  else
    let exponent := max minExponent (floorLog2 numerator denominator - 52)
    let significand :=
      if 0 ≤ exponent then divideToEven numerator (denominator <<< exponent.toNat)
      else divideToEven (numerator <<< (-exponent).toNat) denominator
    let rounded : Binary64 :=
      if significand = 2 * leastFull then ⟨negative, leastFull, exponent + 1⟩
      else ⟨negative, significand, exponent⟩
    if rounded.exponent ≤ maxExponent then some rounded else none

/-- The number nearest to a natural number, `none` when it is beyond the greatest finite one. -/
def ofNat? (n : Nat) : Option Binary64 := ofRatio? false n 1

/-- The sum of two magnitudes, rounded once. -/
def addMagnitudes? (x y : Binary64) : Option Binary64 :=
  let (a, b) := x.magnitude
  let (c, d) := y.magnitude
  ofRatio? false (a * d + c * b) (b * d)

end Binary64

end Runbook.Number
