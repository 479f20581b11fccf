/-
# The shortest decimal of a double

Among the decimals that round to a given double, the one with the fewest
digits is its written form; of two with equally few digits the nearer is
taken, and of two equally near the greater.

Everything is counted in units of a power of ten small enough that the double
and both ends of its rounding interval are whole numbers of units. For one
digit, two digits and so on, the two neighbours of the double with that many
digits are tried. An end of the interval belongs to it if and only if the
significand is even.
-/

import PostfixCalc.Binary64.Format
import PostfixCalc.Decimal.Numeral

namespace PostfixCalc.Binary64

/-- The decimals that round to a double, in units of `10 ^ exponent`. -/
structure RoundingInterval where
  lower : Nat
  value : Nat
  upper : Nat
  closed : Bool
  exponent : Int
  deriving DecidableEq, Repr

namespace RoundingInterval

/-- The interval of a positive finite double. The gap below a power of two is
half the gap above it, except at the least exponent. -/
def ofParts (parts : Parts) : RoundingInterval :=
  let quarter :=
    if parts.exponent < 0 then Nat.pow 5 (2 - parts.exponent).toNat
    else 25 * Nat.pow 2 parts.exponent.toNat
  let narrow := parts.significand = hiddenBit ∧ leastExponent < parts.exponent
  let below := if narrow then 1 else 2
  { lower := (4 * parts.significand - below) * quarter
    value := 4 * parts.significand * quarter
    upper := (4 * parts.significand + 2) * quarter
    closed := parts.significand % 2 = 0
    exponent := min parts.exponent 0 - 2 }

/-- A number of units that rounds to the double. -/
def contains (interval : RoundingInterval) (units : Nat) : Bool :=
  if interval.closed then interval.lower ≤ units && units ≤ interval.upper
  else interval.lower < units && units < interval.upper

/-- The better of the two multiples of `step` around the value, if any rounds to the double. -/
def neighbour? (interval : RoundingInterval) (step : Nat) : Option Nat :=
  let below := interval.value / step
  let belowFits := interval.contains (below * step)
  let aboveFits := interval.contains ((below + 1) * step)
  let nearerAbove := step ≤ 2 * (interval.value - below * step)
  if aboveFits && (!belowFits || nearerAbove) then some (below + 1)
  else if belowFits then some below
  else none

end RoundingInterval

/-- The most digits that a double may need. -/
def mostDigits : Nat :=
  17

/-- The shortest decimal that rounds to the double with the given parts. -/
def shortestDecimal (parts : Parts) : Decimal.Numeral :=
  let interval := RoundingInterval.ofParts parts
  let width := (Decimal.natText interval.value).length
  let withDigits (count : Nat) : Option Decimal.Numeral :=
    (interval.neighbour? (Decimal.tenPow (width - count))).map fun digits =>
      Decimal.Numeral.trimmed ⟨digits, interval.exponent + ((width - count : Nat) : Int)⟩
  ((List.range' 1 mostDigits).findSome? withDigits).getD ⟨interval.value, interval.exponent⟩

end PostfixCalc.Binary64
