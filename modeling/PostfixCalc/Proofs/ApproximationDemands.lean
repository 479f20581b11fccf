/-
# Demands of roots and of pi

The iteration for a root divides by the divisor of the fraction and by its
guess, the series for an arc tangent by a power and an odd number, and a number
of units is turned into a rational by the units in one.

Main statements: no guess of an iteration that starts above zero is ever zero,
the powers of a positive base are positive, and there is at least one unit in
one. So roots and pi are computed without meeting a zero divisor, at every
number of decimals.
-/

import PostfixCalc.Approx.Pi
import PostfixCalc.Proofs.Demands
import PostfixCalc.Proofs.NewtonLoop

namespace PostfixCalc.Checked

/-! ## Units -/

/-- A number of units as a rational, whose denominator is the units in one. -/
def ofScaled (scaled : Int) (digits : Nat) : Checked Rat :=
  divisionBy (Decimal.unitsPerOne digits) (mkRat scaled (Decimal.unitsPerOne digits))

theorem ofScaled_eq (scaled : Int) (digits : Nat) :
    ofScaled scaled digits = .ok (Decimal.ofScaled scaled digits) :=
  divisionBy_of_ne_zero (Decimal.unitsPerOne_pos digits).ne' _

/-! ## Roots -/

section Root

/-- The mean of a guess and of the target divided by the divisor and the guess. -/
def newtonStep (target divisor guess : Nat) : Checked Nat := do
  let quotient ← divisionBy (divisor * guess) (target / (divisor * guess))
  return (guess + quotient) / 2

/-- Iterate downward, with the demands of every step. -/
def descend (target divisor guess : Nat) : Checked Nat := do
  let next ← newtonStep target divisor guess
  if next = guess ∨ next + 1 = guess then return next
  else if next < guess then descend target divisor next
  else return next
termination_by guess

/-- Iterate from a start that may lie on either side of the root. -/
def newtonCandidate (target divisor start : Nat) : Checked Nat := do
  let next ← newtonStep target divisor start
  if next = start ∨ next + 1 = start then return next
  else descend target divisor next

/-- The floor root of a target over a divisor. -/
def floorRoot (target divisor start : Nat) : Checked Nat := do
  let radicand ← divisionBy divisor (target / divisor)
  let candidate ← newtonCandidate target divisor start
  return Approx.lowerToRoot radicand (Approx.raiseToRoot radicand candidate)

/-- The root of a rational cut after the given number of decimals. -/
def squareRoot? (r : Rat) (digits : Nat) : Checked (Option Rat) :=
  if r.num < 0 then return none
  else if r.num = 0 then return some (← ofScaled 0 digits)
  else do
    let root ← floorRoot (r.num.toNat * Decimal.unitsPerOne (2 * digits)) r.den
      (Decimal.unitsPerOne digits)
    return some (← ofScaled root digits)

variable {target divisor guess : Nat}

theorem newtonStep_eq (divisor_pos : 0 < divisor) (positive : 0 < guess) :
    newtonStep target divisor guess = .ok (Approx.newtonStep (target / divisor) guess) := by
  rw [newtonStep, divisionBy_of_ne_zero (Nat.mul_pos divisor_pos positive).ne', ok_bind,
    ← Approx.fractionStep_eq]
  rfl

/-- Every guess of a descent is positive, and so the next one is found. -/
theorem descend_eq (divisor_pos : 0 < divisor)
    (descending : Approx.Descending (target / divisor) guess) :
    descend target divisor guess = .ok (Approx.descend (target / divisor) guess) := by
  fun_induction Approx.descend (target / divisor) guess with
  | case1 guess next stops =>
      rw [descend, newtonStep_eq divisor_pos descending.positive, ok_bind,
        if_pos (Approx.stopsAt_iff.mp stops)]
      rfl
  | case2 guess next goes_on down ih =>
      rw [descend, newtonStep_eq divisor_pos descending.positive, ok_bind,
        if_neg (mt Approx.stopsAt_iff.mpr goes_on), if_pos down]
      exact ih (Approx.descending_newtonStep descending.positive goes_on)
  | case3 guess next goes_on not_down =>
      rw [descend, newtonStep_eq divisor_pos descending.positive, ok_bind,
        if_neg (mt Approx.stopsAt_iff.mpr goes_on), if_neg not_down]
      rfl

theorem newtonCandidate_eq (divisor_pos : 0 < divisor) (positive : 0 < guess) :
    newtonCandidate target divisor guess =
      .ok (Approx.newtonCandidate (target / divisor) guess) := by
  rw [newtonCandidate, newtonStep_eq divisor_pos positive, ok_bind, Approx.newtonCandidate]
  by_cases stops : Approx.stopsAt (target / divisor) guess = true
  · rw [if_pos (Approx.stopsAt_iff.mp stops), if_pos stops]
    rfl
  · rw [if_neg (mt Approx.stopsAt_iff.mpr stops), if_neg stops]
    exact descend_eq divisor_pos (Approx.descending_newtonStep positive stops)

theorem floorRoot_eq (divisor_pos : 0 < divisor) (positive : 0 < guess) :
    floorRoot target divisor guess = .ok (Approx.floorRoot (target / divisor) guess) := by
  rw [floorRoot, divisionBy_of_ne_zero divisor_pos.ne', ok_bind,
    newtonCandidate_eq divisor_pos positive, ok_bind]
  rfl

theorem squareRoot?_eq (r : Rat) (digits : Nat) :
    squareRoot? r digits = .ok (Approx.squareRoot? r digits) := by
  rw [squareRoot?, Approx.squareRoot?]
  split
  · rfl
  split
  · rw [ofScaled_eq, Decimal.ofScaled, Rat.zero_mkRat]
    rfl
  · rw [floorRoot_eq r.den_pos (Decimal.unitsPerOne_pos digits), ok_bind, ofScaled_eq]
    rfl

end Root

/-! ## Pi -/

section Pi

variable {base scale power index : Nat}

/-- A term that is not zero is added before the index passes half the scale. -/
theorem room_of_term_ne_zero (nonzero : scale / (power * (2 * index + 1)) ≠ 0) :
    scale - 2 * (index + 1) < scale - 2 * index := by
  have divisor_pos : 0 < power * (2 * index + 1) :=
    Nat.pos_of_ne_zero fun zero => nonzero (by rw [zero, Nat.div_zero])
  have divisor_le : power * (2 * index + 1) ≤ scale :=
    Nat.le_of_not_lt fun small => nonzero (Nat.div_eq_of_lt small)
  have reach : 2 * index + 1 ≤ power * (2 * index + 1) :=
    Nat.le_mul_of_pos_left _ (Nat.pos_of_mul_pos_right divisor_pos)
  omega

/-- The alternating sum of the terms rounded down, up to the first that is zero.
The divisor of every term is looked at before the term. -/
def alternatingSum (base scale power index : Nat) : Checked Int :=
  if power * (2 * index + 1) = 0 then .error .zeroDivisor
  else if scale / (power * (2 * index + 1)) = 0 then .ok 0
  else do
    let others ← alternatingSum base scale (power * base * base) (index + 1)
    return (scale / (power * (2 * index + 1)) : Nat) - others
termination_by scale - 2 * index
decreasing_by
  exact room_of_term_ne_zero (by assumption)

/-- The arc tangent of one over a base in units of one over a scale. -/
def arctanInverse (base scale : Nat) : Checked Int :=
  alternatingSum base scale base 0

/-- Pi in units of the last of the given number of decimals. -/
def piUnits (digits : Nat) : Checked Int := do
  let scale := Decimal.unitsPerOne (digits + Approx.guardDigits)
  let first ← arctanInverse 5 scale
  let second ← arctanInverse 239 scale
  let guard : Int := Decimal.unitsPerOne Approx.guardDigits
  divisionBy guard ((16 * first - 4 * second).tdiv guard)

/-- Pi with the given number of decimals. -/
def pi (digits : Nat) : Checked Rat := do
  ofScaled (← piUnits digits) digits

theorem alternatingSum_eq (base_pos : 0 < base) (power_pos : 0 < power) :
    alternatingSum base scale power index =
      .ok (Approx.alternatingSum base scale power index) := by
  fun_induction Approx.alternatingSum base scale power index with
  | case1 power index term vanishes =>
      have divisor_pos : 0 < power * (2 * index + 1) := Nat.mul_pos power_pos (Nat.succ_pos _)
      rw [alternatingSum, if_neg divisor_pos.ne', if_pos vanishes]
  | case2 power index term nonzero ih =>
      have divisor_pos : 0 < power * (2 * index + 1) := Nat.mul_pos power_pos (Nat.succ_pos _)
      rw [alternatingSum, if_neg divisor_pos.ne', if_neg nonzero,
        ih (Nat.mul_pos (Nat.mul_pos power_pos base_pos) base_pos)]
      rfl

theorem arctanInverse_eq (base_pos : 0 < base) :
    arctanInverse base scale = .ok (Approx.arctanInverse base scale) :=
  alternatingSum_eq base_pos base_pos

theorem piUnits_eq (digits : Nat) : piUnits digits = .ok (Approx.piUnits digits) := by
  have guard_ne : (Decimal.unitsPerOne Approx.guardDigits : Int) ≠ 0 :=
    Int.natCast_ne_zero.mpr (Decimal.unitsPerOne_pos _).ne'
  rw [piUnits, arctanInverse_eq (by decide), ok_bind, arctanInverse_eq (by decide), ok_bind]
  exact divisionBy_of_ne_zero guard_ne _

theorem pi_eq (digits : Nat) : pi digits = .ok (Approx.pi digits) := by
  rw [pi, piUnits_eq, ok_bind, ofScaled_eq]
  rfl

end Pi

end PostfixCalc.Checked
