/-
# Machin's formula

Pi is sixteen times the arc tangent of one fifth less four times that of one
two hundred and thirty-ninth. Each arc tangent is summed as an alternating
series of whole numbers of units, every term rounded down, up to the first
term that is zero. Ten more decimals than asked are carried and then cut off.

The result is within two units of the last place; nothing here claims that
every decimal is one of pi.
-/

import PostfixCalc.Decimal.Truncated

namespace PostfixCalc.Approx

/-- The sum of the terms `scale / (power * (2 * index + 1))` with alternating
signs, `power` growing by the square of `base` and `index` by one from each
term to the next, up to the first term that is zero. -/
def alternatingSum (base scale : Nat) (power index : Nat) : Int :=
  let term := scale / (power * (2 * index + 1))
  if term = 0 then 0
  else (term : Int) - alternatingSum base scale (power * base * base) (index + 1)
termination_by scale - 2 * index
decreasing_by
  have nonzero : ¬ scale / (power * (2 * index + 1)) = 0 := by assumption
  have positive : 0 < power * (2 * index + 1) := by
    apply Nat.pos_of_ne_zero
    intro zero
    simp [zero] at nonzero
  have large : power * (2 * index + 1) ≤ scale := by
    apply Nat.le_of_not_lt
    intro small
    exact nonzero (Nat.div_eq_of_lt small)
  have power_positive : 0 < power := Nat.pos_of_mul_pos_right positive
  have reach : 2 * index + 1 ≤ power * (2 * index + 1) :=
    Nat.le_mul_of_pos_left _ power_positive
  omega

/-- The arc tangent of `1 / base` in units of `1 / scale`. -/
def arctanInverse (base scale : Nat) : Int :=
  alternatingSum base scale base 0

/-- The decimals carried beyond those asked for. -/
def guardDigits : Nat :=
  10

/-- Pi in units of the last of the given number of decimals. -/
def piUnits (digits : Nat) : Int :=
  let scale := Decimal.unitsPerOne (digits + guardDigits)
  (16 * arctanInverse 5 scale - 4 * arctanInverse 239 scale).tdiv (Decimal.unitsPerOne guardDigits)

/-- Pi with the given number of decimals, as a rational. -/
def pi (digits : Nat) : Rat :=
  Decimal.ofScaled (piUnits digits) digits

end PostfixCalc.Approx
