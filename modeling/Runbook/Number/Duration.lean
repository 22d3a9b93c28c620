import Runbook.Number.Binary64
import Runbook.Number.Decimal
/-!
# Time spans

A span of time is a whole number of nanoseconds. `ofSeconds?` takes the number of seconds that an
argument gives and rounds its exact value to the nearest nanosecond, so a positive number below
half a nanosecond gives the empty span; it refuses only spans whose whole seconds do not fit in 64
bits. `seconds` is the way back for messages: the double-precision sum of the whole seconds and of
the fraction.
-/

set_option autoImplicit false

namespace Runbook.Number

/-- A span of time in whole nanoseconds. -/
structure Duration where
  nanos : Nat
deriving DecidableEq, Repr

namespace Duration

/-- The nanoseconds of one second. -/
def nanosPerSecond : Nat := 1000000000

/-- The span of a whole number of seconds. -/
def ofWholeSeconds (seconds : Nat) : Duration := ⟨seconds * nanosPerSecond⟩

/-- The whole seconds of a span. -/
def wholeSeconds (d : Duration) : Nat := d.nanos / nanosPerSecond

/-- The nanoseconds of a span after its whole seconds. -/
def subsecondNanos (d : Duration) : Nat := d.nanos % nanosPerSecond

/-- The span nearest to a number of seconds, a half nanosecond going to the even neighbour. A
number below zero has none, nor has one whose whole seconds do not fit in 64 bits. -/
def ofSeconds? (x : Binary64) : Option Duration :=
  if x.isBelowZero then none
  else if x.wholePart < 0x10000000000000000 then
    let (numerator, denominator) := x.magnitude
    some ⟨Binary64.divideToEven (numerator * nanosPerSecond) denominator⟩
  else none

/-- The length of a span in seconds: whole seconds and fraction are each rounded to a number, and
so is their sum. -/
def seconds? (d : Duration) : Option Binary64 :=
  (Binary64.ofNat? d.wholeSeconds).bind fun whole =>
    (Binary64.ofRatio? false d.subsecondNanos nanosPerSecond).bind fun fraction =>
      whole.addMagnitudes? fraction

/-- The length of a span in seconds as a message writes it. -/
def secondsText (d : Duration) : String :=
  (d.seconds?.map Decimal.write).getD (toString d.wholeSeconds)

end Duration

end Runbook.Number
