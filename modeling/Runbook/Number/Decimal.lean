import Runbook.Number.Binary64
/-!
# Decimal text of a number

Reading and writing double-precision numbers in decimal.

`read?` takes an optional sign, digits with an optional point (at least one digit on either side)
and an optional exponent, and rounds the decimal to the nearest number. A text that is not of this
form, and a decimal beyond the greatest finite number, is refused.

`write` gives the fewest decimal digits that read back as the same number, of several such digit
strings the one nearest to it, and always in positional notation: no exponent, and no point for a
whole number.

`Rounded` writes as many digits as are asked for: those of the exact value, rounded once, a half
going to the even neighbour. `Rounded.fixed` has a given number of places after the point,
`Rounded.scientific` has one digit before the point and a power of ten after it, and
`Rounded.general` takes whichever of the two is meant for the size of the number, and leaves out
zeros at the end.

Scope. The words for infinity and for the undefined number are refused like any other text,
because no argument may take those values.
-/

set_option autoImplicit false

namespace Runbook.Number.Decimal

/-! ### Reading -/

/-- The value of a run of decimal digits. -/
def digitsValue (digits : List Char) : Nat :=
  digits.foldl (fun value c => 10 * value + (c.toNat - '0'.toNat)) 0

/-- Splits an optional sign from a text: whether it is a minus, and the rest. -/
def splitSign : List Char → Bool × List Char
  | '-' :: rest => (true, rest)
  | '+' :: rest => (false, rest)
  | text => (false, text)

/-- The exponent part of a decimal: nothing, or `e` or `E`, an optional sign and digits. -/
def exponent? : List Char → Option Int
  | [] => some 0
  | c :: rest =>
    if c = 'e' ∨ c = 'E' then
      let (negative, digits) := splitSign rest
      if digits.isEmpty || !digits.all Char.isDigit then none
      else some (if negative then -(digitsValue digits : Int) else digitsValue digits)
    else none

/-- The number nearest to `± digits * 10 ^ exponent`. Exponents that put every nonzero value
beyond the range of the format on either side are decided without computing the power. -/
def ofScaled? (negative : Bool) (digits : List Char) (exponent : Int) : Option Binary64 :=
  let significant := digits.dropWhile (· == '0')
  let places : Int := significant.length + exponent
  if significant.isEmpty || places < -400 then some (.zero negative)
  else if places > 400 then none
  else
    let value := digitsValue significant
    if 0 ≤ exponent then Binary64.ofRatio? negative (value * Nat.pow 10 exponent.toNat) 1
    else Binary64.ofRatio? negative value (Nat.pow 10 (-exponent).toNat)

/-- The number written by a decimal text, `none` when the text is not a decimal or its value is
too large for a finite number. -/
def read? (text : List Char) : Option Binary64 :=
  let (negative, unsigned) := splitSign text
  let whole := unsigned.takeWhile Char.isDigit
  let afterWhole := unsigned.dropWhile Char.isDigit
  let fraction := match afterWhole with
    | '.' :: rest => rest.takeWhile Char.isDigit
    | _ => []
  let rest := match afterWhole with
    | '.' :: rest => rest.dropWhile Char.isDigit
    | rest => rest
  if whole.isEmpty && fraction.isEmpty then none
  else
    (exponent? rest).bind fun exponent =>
      ofScaled? negative (whole ++ fraction) (exponent - fraction.length)

/-! ### The fewest digits -/

/-- A decimal `digits * 10 ^ exponent`. -/
structure Scaled where
  digits : Nat
  exponent : Int
deriving DecidableEq, Repr

/-- Compares `a / b` with `digits * 10 ^ exponent`. -/
def compareScaled (a b : Nat) (x : Scaled) : Ordering :=
  if 0 ≤ x.exponent then compare a (x.digits * Nat.pow 10 x.exponent.toNat * b)
  else compare (a * Nat.pow 10 (-x.exponent).toNat) (x.digits * b)

/-- The ends of the interval of reals that round to a number, as two numerators over one
denominator. The gap below a power of two is half as wide as the one above it. -/
def roundingInterval (x : Binary64) : Nat × Nat × Nat :=
  let below :=
    if x.significand == Binary64.leastFull && x.exponent != Binary64.minExponent then 1 else 2
  let lower := 4 * x.significand - below
  let upper := 4 * x.significand + 2
  let exponent := x.exponent - 2
  if 0 ≤ exponent then (lower <<< exponent.toNat, upper <<< exponent.toNat, 1)
  else (lower, upper, 1 <<< (-exponent).toNat)

/-- Whether reading a decimal gives back the magnitude of a number. The ends of the rounding
interval belong to the number whose significand is even. -/
def readsBack (x : Binary64) (candidate : Scaled) : Bool :=
  let (lower, upper, denominator) := roundingInterval x
  let closed := x.significand % 2 == 0
  let aboveLower := match compareScaled lower denominator candidate with
    | .lt => true
    | .eq => closed
    | .gt => false
  let belowUpper := match compareScaled upper denominator candidate with
    | .gt => true
    | .eq => closed
    | .lt => false
  aboveLower && belowUpper

/-- The number `p` with `10 ^ (p - 1) ≤ a / b < 10 ^ p`, searched upward from a lower bound. -/
def decimalPlaces (a b : Nat) : Int :=
  let start := Binary64.floorLog2 a b * 30103 / 100000 - 1
  let rec search : Nat → Int → Int
    | 0, p => p
    | fuel + 1, p =>
      if compareScaled a b ⟨1, p⟩ = .lt then p else search fuel (p + 1)
  search 6 start

/-- The two neighbours of a magnitude on the grid of decimals with a given last place. -/
def gridNeighbours (a b : Nat) (exponent : Int) : Scaled × Scaled :=
  let floor :=
    if 0 ≤ exponent then a / (b * Nat.pow 10 exponent.toNat)
    else a * Nat.pow 10 (-exponent).toNat / b
  (⟨floor, exponent⟩, ⟨floor + 1, exponent⟩)

/-- Whether the lower of two grid neighbours is nearer to the magnitude, or as near and even. -/
def lowerIsNearer (a b : Nat) (lower : Scaled) : Bool :=
  match compareScaled (2 * a) b ⟨2 * lower.digits + 1, lower.exponent⟩ with
  | .lt => true
  | .eq => lower.digits % 2 == 0
  | .gt => false

/-- The shortest decimal that reads back as a nonzero number, found by trying ever finer grids. -/
def shortest (x : Binary64) : Scaled :=
  let (a, b) := x.magnitude
  let places := decimalPlaces a b
  let rec search : Nat → Nat → Scaled
    | 0, count => (gridNeighbours a b (places - count)).1
    | fuel + 1, count =>
      let (lower, upper) := gridNeighbours a b (places - count)
      match readsBack x lower, readsBack x upper with
      | true, true => if lowerIsNearer a b lower then lower else upper
      | true, false => lower
      | false, true => upper
      | false, false => search fuel (count + 1)
  search 17 1

/-! ### Writing -/

/-- A decimal in positional notation, without a point when it is whole and without zeros at the
end of its fraction. -/
def positional (x : Scaled) : String :=
  let digits := (toString x.digits).toList
  if 0 ≤ x.exponent then String.ofList (digits ++ List.replicate x.exponent.toNat '0')
  else
    let places := (-x.exponent).toNat
    let padded := List.replicate (places + 1 - digits.length) '0' ++ digits
    let whole := padded.take (padded.length - places)
    let fraction := padded.drop (padded.length - places)
    let kept := (fraction.reverse.dropWhile (· == '0')).reverse
    if kept.isEmpty then String.ofList whole else String.ofList (whole ++ '.' :: kept)

/-- The text of a number: a minus if it is negative, zero included, and the fewest digits that
read back, in positional notation. -/
def write (x : Binary64) : String :=
  let sign := if x.negative then "-" else ""
  sign ++ (if x.isZero then "0" else positional (shortest x))

end Runbook.Number.Decimal

/-! ### A given count of digits -/

namespace Runbook.Number.Rounded

/-- The magnitude of a number in units of a power of ten, rounded to a whole number of them. -/
def units (x : Binary64) (exponent : Int) : Nat :=
  let (a, b) := x.magnitude
  if 0 ≤ exponent then Binary64.divideToEven a (b * Nat.pow 10 exponent.toNat)
  else Binary64.divideToEven (a * Nat.pow 10 (-exponent).toNat) b

/-- Digits with a point before the last few of them. -/
def withPoint (places : Nat) (digits : Nat) : String :=
  let text := Nat.toDigits 10 digits
  let padded := List.replicate (places + 1 - text.length) '0' ++ text
  let whole := padded.take (padded.length - places)
  if places = 0 then String.ofList whole
  else String.ofList (whole ++ '.' :: padded.drop (padded.length - places))

/-- The magnitude of a number with a count of places after the point. -/
def fixed (places : Nat) (x : Binary64) : String := withPoint places (units x (-places))

/-- The power of ten of the first digit of a number that is rounded to a count of places after
it, and the digits. -/
def leading (places : Nat) (x : Binary64) : Int × Nat :=
  if x.isZero then (0, 0)
  else
    let exponent := Decimal.decimalPlaces x.magnitude.1 x.magnitude.2 - 1
    let digits := units x (exponent - places)
    if digits = Nat.pow 10 (places + 1) then (exponent + 1, Nat.pow 10 places)
    else (exponent, digits)

/-- A power of ten as it is written after digits: with its sign and at least two digits. -/
def power (exponent : Int) : String :=
  let digits := toString exponent.natAbs
  "e" ++ (if exponent < 0 then "-" else "+") ++
      (if digits.length < 2 then "0" ++ digits else digits)

/-- The magnitude of a number with one digit before the point. -/
def scientific (places : Nat) (x : Binary64) : String :=
  let (exponent, digits) := leading places x
  withPoint places digits ++ power exponent

/-- Digits without the zeros after the point that say nothing. -/
def trimZeros (text : String) : String :=
  let chars := text.toList
  if '.' ∈ chars then
    String.ofList ((chars.reverse.dropWhile (· = '0')).dropWhile (· = '.')).reverse
  else text

/-- The magnitude of a number with a count of digits, in the notation that suits its size. -/
def general (count : Nat) (keepZeros : Bool) (x : Binary64) : String :=
  let places := max count 1 - 1
  let (exponent, digits) := leading places x
  let trim (text : String) : String := if keepZeros then text else trimZeros text
  if -4 ≤ exponent && exponent ≤ places then trim (fixed (places - exponent).toNat x)
  else trim (withPoint places digits) ++ power exponent

end Runbook.Number.Rounded
