/-
# Rationals

Exact rationals in lowest terms. Arithmetic, inverses and powers are exact;
square roots and pi are cut after a number of decimals, the precision, which
the calculator's settings choose within a bound.

A text with a slash can only be a fraction, and any other text only a
decimal, whose exponent is bounded.
-/

import PostfixCalc.Approx.Pi
import PostfixCalc.Approx.Root
import PostfixCalc.Decimal.Literal
import PostfixCalc.Number
import PostfixCalc.Number.Integer

namespace PostfixCalc

/-- The greatest precision that a calculator accepts. -/
def greatestPrecision : Nat :=
  200

/-- A number of decimals within the accepted range. -/
structure Precision where
  digits : Nat
  digits_le : digits ≤ greatestPrecision

namespace Precision

/-- The nearest accepted precision. -/
def ofNat (digits : Nat) : Precision :=
  ⟨min digits greatestPrecision, Nat.min_le_right _ _⟩

/-- The precision of a calculator for which none was chosen. -/
def standardDigits : Nat :=
  20

/-- The structured description of a precision. -/
def describe (precision : Precision) : String :=
  "ReglagesRationnel \x7b digits: " ++ Decimal.natText precision.digits ++ " \x7d"

end Precision

namespace Rational

/-- The greatest magnitude of the exponent of a literal. -/
def greatestLiteralExponent : Nat :=
  4096

/-- An integer times a power of ten, which is a multiplier or a number of
decimals. Its exponent is counted either way. -/
def scaled (number scale : Int) : Rat :=
  if 0 ≤ scale then (number * Decimal.unitsPerOne scale.toNat : Int)
  else Decimal.ofScaled number (-scale).toNat

/-- The value of a decimal literal with an accepted exponent. -/
def ofLiteral? (literal : Decimal.Literal) : Option Rat :=
  let magnitude := Decimal.digitsValue literal.exponentDigits
  if greatestLiteralExponent < magnitude then none
  else some (scaled (Decimal.signed literal.negative literal.mantissa) (literal.scale magnitude))

/-- The rational that a text denotes. -/
def readLiteral? (text : String) : Option Rat :=
  if text.toList.contains '/' then Decimal.readFraction? text.toList
  else (Decimal.Literal.ofChars? text.toList).bind ofLiteral?

/-- The numerator, and the denominator after a slash unless it is one. -/
def render (r : Rat) : String :=
  if r.den = 1 then Decimal.intText r.num
  else Decimal.intText r.num ++ "/" ++ Decimal.natText r.den

/-- The exact quotient. -/
def divide (dividend divisor : Rat) : Except Failure Rat :=
  if divisor = 0 then .error .divisionByZero else .ok (dividend / divisor)

/-- The exact inverse. -/
def inverse (r : Rat) : Except Failure Rat :=
  if r = 0 then .error .divisionByZero else .ok r⁻¹

/-- The square root cut after the given number of decimals. -/
def squareRoot (precision : Precision) (r : Rat) : Except Failure Rat :=
  match Approx.squareRoot? r precision.digits with
  | some root => .ok root
  | none => .error .negativeRoot

/-- A product multiplied by a power. While the exponent is halved the base is
squared, an odd exponent having given one factor to the product before. The
base is not squared once no exponent is left. -/
def timesPower (product base : Rat) (exponent : Nat) : Rat :=
  if exponent = 0 then product
  else
    let half := exponent / 2
    timesPower (if exponent % 2 = 1 then product * base else product)
      (if half = 0 then base else base * base) half
termination_by exponent

/-- The power with an integer exponent; a negative one inverts the power of its
magnitude. -/
def integerPower (base : Rat) (exponent : Int) : Rat :=
  let magnitude := timesPower 1 base exponent.natAbs
  if exponent < 0 then magnitude⁻¹ else magnitude

/-- The exact power, for an exponent that is an integer. Only the parity of
the exponent matters to a base of magnitude one, and only its sign to the
base zero. -/
def power (base exponent : Rat) : Except Failure Rat :=
  if exponent.den ≠ 1 then .error .fractionalExponent
  else if base = 0 then
    if exponent.num < 0 then .error .divisionByZero
    else .ok (if exponent.num = 0 then 1 else 0)
  else if base.abs = 1 then .ok (if exponent.num % 2 = 0 then 1 else base)
  else if greatestExponent < exponent.num.natAbs then .error .exponentTooLarge
  else .ok (integerPower base exponent.num)

/-- The named operations on rationals, at the given precision. -/
def functions (precision : Precision) : List (String × Operation Rat) :=
  let root := Operation.unary (squareRoot precision)
  let pi := Operation.constant (Approx.pi precision.digits)
  [("sqrt", root),
   ("√", root),
   ("pi", pi),
   ("π", pi),
   ("abs", .unary fun r => .ok r.abs),
   ("neg", .unary fun r => .ok (-r)),
   ("inv", .unary inverse),
   ("^", .binary power)]

end Rational

instance : Number Rat where
  Settings := Precision
  defaultSettings := Precision.ofNat Precision.standardDigits
  describeSettings := Precision.describe
  kindName := "rationnel"
  readLiteral? _ := Rational.readLiteral?
  render := Rational.render
  plus x y := .ok (x + y)
  minus x y := .ok (x - y)
  times x y := .ok (x * y)
  dividedBy := Rational.divide
  functions := Rational.functions

end PostfixCalc
