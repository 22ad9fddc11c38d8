import Settings.Double.Exact
import Settings.Decimal

/-!
# The nearest double

A non-negative fraction is scaled by the power of two that leaves a significand of 53 bits (fewer
below the normal range) and rounded there, ties to even.  The bits of the result are the exponent
and the significand added up: a carry out of the significand raises the exponent by itself.
-/

namespace Settings.Double

/-- The exponent of the unit in the last place of doubles around `num / den`. -/
def unitExponent (num den : Nat) : Int :=
  let guess : Int := (num.log2 : Int) - den.log2 - 52
  let below :=
    if 0 ≤ guess then num < hiddenBit * (den * Nat.pow 2 guess.toNat)
    else num * Nat.pow 2 (-guess).toNat < hiddenBit * den
  max (if below then guess - 1 else guess) (-1074)

/-- The bits of the double nearest to `num / den`, as if the exponent had no upper limit. -/
def nearestBits (num den : Nat) : Nat :=
  if num = 0 then 0
  else
    let e := unitExponent num den
    let significand :=
      if 0 ≤ e then roundDiv num (den * Nat.pow 2 e.toNat)
      else roundDiv (num * Nat.pow 2 (-e).toNat) den
    (e + 1074).toNat * hiddenBit + significand

/-- The double with the given sign nearest to `± num / den`, `none` beyond the largest one. -/
def nearest? (negative : Bool) (num den : Nat) : Option Float :=
  let bits := nearestBits num den
  if 2047 * hiddenBit ≤ bits then none
  else some (Float.ofBits (UInt64.ofNat (bits + if negative then signBit else 0)))

/-- The double nearest to a whole number, `none` if it is too large. -/
def ofInt? (n : Int) : Option Float :=
  nearest? (n < 0) n.natAbs 1

/-- The double nearest to `± coefficient · 10 ^ exponent`; too large numbers become infinite. -/
def ofDecimal (negative : Bool) (x : Decimal) : Float :=
  let zero := Float.ofBits (UInt64.ofNat (if negative then signBit else 0))
  let overflow := infinity negative
  if x.coefficient = 0 then zero
  else if 400 < x.exponent then overflow
  else if x.exponent + digitCount x.coefficient < -400 then zero
  else if 0 ≤ x.exponent then
    (nearest? negative (x.coefficient * Nat.pow 10 x.exponent.toNat) 1).getD overflow
  else (nearest? negative x.coefficient (Nat.pow 10 (-x.exponent).toNat)).getD overflow

/-- The double nearest to `n / 10 ^ 6`. -/
def ofMillionths (n : Int) : Float :=
  (nearest? (n < 0) n.natAbs 1000000).getD (infinity (n < 0))

end Settings.Double
