/-
# The nearest double

The double nearest to a positive quotient of natural numbers, a quotient
halfway between two doubles going to the one with the even significand. The
computation is exact: the place of the last bit is found first, and the
quotient is then rounded once, at that place.
-/

import PostfixCalc.Binary64.Format

namespace PostfixCalc.Binary64

/-- The integer nearest to a quotient, a half going to the even neighbour. -/
def roundHalfEven (numerator denominator : Nat) : Nat :=
  let quotient := numerator / denominator
  let twiceRest := 2 * (numerator % denominator)
  if denominator < twiceRest || (denominator = twiceRest && quotient % 2 = 1) then quotient + 1
  else quotient

/-- Numerator and denominator of a quotient divided by `2 ^ exponent`. -/
def inUnits (numerator denominator : Nat) (exponent : Int) : Nat × Nat :=
  if exponent < 0 then (numerator * Nat.pow 2 (-exponent).toNat, denominator)
  else (numerator, denominator * Nat.pow 2 exponent.toNat)

/-- The exponent of the greatest power of two that a positive quotient reaches. -/
def leadingExponent (numerator denominator : Nat) : Int :=
  let guess : Int := (Nat.log2 numerator : Int) - (Nat.log2 denominator : Int)
  let (above, below) := inUnits numerator denominator guess
  if below ≤ above then guess else guess - 1

/-- The exponent of the last bit of the double nearest to a positive quotient. -/
def unitExponent (numerator denominator : Nat) : Int :=
  max (leadingExponent numerator denominator - 52) leastExponent

/-- The parts of the double nearest to a quotient. -/
def nearestParts (numerator denominator : Nat) : Parts :=
  let exponent := unitExponent numerator denominator
  let (above, below) := inUnits numerator denominator exponent
  ⟨roundHalfEven above below, exponent⟩

/-- The bit pattern of the double nearest to a quotient, which is infinity if
the quotient is too large for a finite double. -/
def nearestBits (numerator denominator : Nat) : Nat :=
  if numerator = 0 then 0
  else min (nearestParts numerator denominator).toBits infinityBits

end PostfixCalc.Binary64
