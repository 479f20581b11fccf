/-
# Units of the last decimal

As long as a number of decimals fits in 32 bits, the units of the last place
are the powers of ten, and a number of units stands for its quotient by one.
-/

import Mathlib.Data.Rat.Cast.Defs
import PostfixCalc.Decimal.Truncated

namespace PostfixCalc.Decimal

theorem unitsPerOne_eq_pow {digits : Nat} (within : digits < 2 ^ 32) :
    unitsPerOne digits = 10 ^ digits :=
  unitsPerOne_eq_tenPow within

theorem ofScaled_eq_div {digits : Nat} (within : digits < 2 ^ 32) (scaled : Int) :
    ofScaled scaled digits = (scaled : Rat) / 10 ^ digits := by
  rw [ofScaled, unitsPerOne_eq_pow within, Rat.mkRat_eq_div, Nat.cast_pow, Nat.cast_ofNat]

end PostfixCalc.Decimal
