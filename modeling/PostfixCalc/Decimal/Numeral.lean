/-
# Positional numerals

A natural number times a power of ten, and its text in positional notation:
zeros stand for the power of ten, and no exponent is ever written.
-/

import PostfixCalc.Decimal.Truncated

namespace PostfixCalc.Decimal

/-- The number `digits * 10 ^ exponent`. -/
structure Numeral where
  digits : Nat
  exponent : Int
  deriving DecidableEq, Repr

namespace Numeral

/-- The same number without its final zero digit, if it has one. -/
def trimmed (numeral : Numeral) : Numeral :=
  if numeral.digits % 10 = 0 then ⟨numeral.digits / 10, numeral.exponent + 1⟩ else numeral

/-- The positional text: all its decimals, and a point only if there are some. -/
def positional (numeral : Numeral) : String :=
  if numeral.exponent < 0 then scaledText (numeral.digits : Int) (-numeral.exponent).toNat
  else natText (numeral.digits * tenPow numeral.exponent.toNat)

end Numeral

end PostfixCalc.Decimal
