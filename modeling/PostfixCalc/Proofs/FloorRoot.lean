/-
# Floor roots

Newton's iteration only has to be near the root: raising and lowering its
answer settle the floor from any guess. Main statement: the iteration gives
the floor of the square root from every start.

How many guesses the iteration takes is not treated here.
-/

import Mathlib.Data.Nat.Sqrt
import PostfixCalc.Approx.Root

namespace PostfixCalc.Approx

/-- Raising stops above every root. -/
theorem lt_succ_raiseToRoot (radicand guess : Nat) :
    radicand < (raiseToRoot radicand guess + 1) * (raiseToRoot radicand guess + 1) := by
  fun_induction raiseToRoot radicand guess with
  | case1 guess below ih => exact ih
  | case2 guess reached => exact Nat.lt_of_not_le reached

/-- Lowering a guess that is not below the floor root stops at it. -/
theorem lowerToRoot_eq_sqrt {radicand guess : Nat} (above : radicand < (guess + 1) * (guess + 1)) :
    lowerToRoot radicand guess = Nat.sqrt radicand := by
  induction guess with
  | zero =>
      have zero : radicand = 0 := by omega
      rw [zero]
      rfl
  | succ guess ih =>
      rw [lowerToRoot]
      split
      · next still_above => exact ih still_above
      · next reached => exact Nat.eq_sqrt.mpr ⟨Nat.le_of_not_lt reached, above⟩

theorem floorRoot_eq_sqrt (radicand start : Nat) : floorRoot radicand start = Nat.sqrt radicand :=
  lowerToRoot_eq_sqrt (lt_succ_raiseToRoot radicand _)

end PostfixCalc.Approx
