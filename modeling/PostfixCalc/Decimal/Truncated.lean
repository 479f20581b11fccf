/-
# Truncated decimals

A rational shown with a fixed number of decimals is cut, never rounded: the
integer that counts its units in the last place is taken toward zero, and that
integer is written with a point before its last digits. The sign is that of
the cut integer, so a negative number too small to show has none.

Units are powers of ten whose exponents are 32-bit counts. A number of
decimals from `2 ^ 32` on wraps around to a coarser unit; only the zeros that
fill the text go by the full number.
-/

import PostfixCalc.Decimal.Digits

namespace PostfixCalc.Decimal

/-- The first exponent that a 32-bit count cannot hold. -/
def exponentRange : Nat :=
  4294967296

/-- How many units there are in one, for a unit in the given decimal place. -/
def unitsPerOne (digits : Nat) : Nat :=
  tenPow (digits % exponentRange)

/-- Within the range of a count the units are those of the decimal place. -/
theorem unitsPerOne_eq_tenPow {digits : Nat} (within : digits < exponentRange) :
    unitsPerOne digits = tenPow digits := by
  rw [unitsPerOne, Nat.mod_eq_of_lt within]

theorem unitsPerOne_pos (digits : Nat) : 0 < unitsPerOne digits :=
  tenPow_pos _

/-- A natural number in at least the given number of digits, zeros in front. -/
def paddedText (width n : Nat) : String :=
  String.ofList ((natText n).toList.leftpad width '0')

/-- The text of a number of units with exactly the given number of decimals,
and without a point if there are none. -/
def scaledText (scaled : Int) (digits : Nat) : String :=
  let sign := if scaled < 0 then "-" else ""
  let whole := natText (scaled.natAbs / unitsPerOne digits)
  if digits = 0 then sign ++ whole
  else sign ++ whole ++ "." ++ paddedText digits (scaled.natAbs % unitsPerOne digits)

/-- The number of units in a rational, cut toward zero. -/
def truncatedUnits (r : Rat) (digits : Nat) : Int :=
  (r.num * (unitsPerOne digits : Int)).tdiv r.den

/-- A rational with the given number of decimals, cut toward zero. -/
def truncatedText (r : Rat) (digits : Nat) : String :=
  scaledText (truncatedUnits r digits) digits

/-- The rational made of a number of units. -/
def ofScaled (scaled : Int) (digits : Nat) : Rat :=
  mkRat scaled (unitsPerOne digits)

end PostfixCalc.Decimal
