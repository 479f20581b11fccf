/-
# Truncated square roots

The floor of the square root of a natural number is found by Newton's
iteration: a guess is replaced by the mean of itself and of the radicand
divided by it, until the next guess is the same or one less. The first step
may go up; after it the guesses go down to the root. Two short adjustments
then make the answer exact whatever the guess.

The root of a rational with a given number of decimals is the floor root of
the radicand counted in units of the square of the last place.
-/

import PostfixCalc.Decimal.Truncated

namespace PostfixCalc.Approx

/-- The mean of a guess and of the radicand divided by it, rounded down. -/
def newtonStep (radicand guess : Nat) : Nat :=
  (guess + radicand / guess) / 2

/-- The iteration stops at a guess whose successor is the guess or one less. -/
def stopsAt (radicand guess : Nat) : Bool :=
  let next := newtonStep radicand guess
  next = guess || next + 1 = guess

/-- Iterate downward and return the successor of the guess at which the
iteration stops. A guess below its successor ends the descent too. -/
def descend (radicand guess : Nat) : Nat :=
  let next := newtonStep radicand guess
  if stopsAt radicand guess then next
  else if next < guess then descend radicand next
  else next
termination_by guess

/-- Iterate from a start that may lie on either side of the root. -/
def newtonCandidate (radicand start : Nat) : Nat :=
  let next := newtonStep radicand start
  if stopsAt radicand start then next else descend radicand next

/-- Increase a guess while the square of its successor stays within the radicand. -/
def raiseToRoot (radicand guess : Nat) : Nat :=
  if (guess + 1) * (guess + 1) ≤ radicand then raiseToRoot radicand (guess + 1) else guess
termination_by radicand - guess
decreasing_by
  have step : guess + 1 ≤ (guess + 1) * (guess + 1) := Nat.le_mul_of_pos_left _ (by omega)
  omega

/-- Decrease a guess while its square exceeds the radicand. -/
def lowerToRoot (radicand : Nat) : Nat → Nat
  | 0 => 0
  | guess + 1 =>
      if radicand < (guess + 1) * (guess + 1) then lowerToRoot radicand guess else guess + 1

/-- The floor of the square root, iterating from the given start. -/
def floorRoot (radicand start : Nat) : Nat :=
  lowerToRoot radicand (raiseToRoot radicand (newtonCandidate radicand start))

/-- A nonnegative rational in units of twice as many decimals, rounded down. -/
def scaledRadicand (r : Rat) (digits : Nat) : Nat :=
  r.num.toNat * Decimal.unitsPerOne (2 * digits) / r.den

/-- The square root of a rational cut after the given number of decimals; a
negative rational has none, and zero needs no iteration. -/
def squareRoot? (r : Rat) (digits : Nat) : Option Rat :=
  if r.num < 0 then none
  else if r.num = 0 then some 0
  else
    let root := floorRoot (scaledRadicand r digits) (Decimal.unitsPerOne digits)
    some (Decimal.ofScaled (root : Int) digits)

end PostfixCalc.Approx
