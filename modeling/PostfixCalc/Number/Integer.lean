/-
# Integers

Exact integers of any size. Division is cut toward zero and the remainder has
the sign of the dividend. A power is exact, so its exponent is bounded unless
the base is zero, one or minus one.

A square root is that of the arithmetic library which the integers are taken
from. It is expected to be rounded down, and nothing here depends on it.
-/

import PostfixCalc.Calculator
import PostfixCalc.Decimal.Literal

namespace PostfixCalc

/-- The greatest magnitude of an exponent for a base whose powers grow. -/
def greatestExponent : Nat :=
  4096

namespace Integer

/-- What the operations on integers leave to an arithmetic library. -/
structure Library where
  /-- The square root of a natural number. -/
  root : Nat → Nat

/-- Heron's iteration, downward from a guess that is not below the root. -/
def heron (radicand guess : Nat) : Nat :=
  let next := (guess + radicand / guess) / 2
  if next < guess then heron radicand next else guess
termination_by guess

/-- The library of a calculator that is built on none in particular. -/
def Library.standard : Library where
  root radicand :=
    if radicand ≤ 1 then radicand else heron radicand (1 <<< (Nat.log2 radicand / 2 + 1))

/-- The quotient cut toward zero. -/
def divide (dividend divisor : Int) : Except Failure Int :=
  if divisor = 0 then .error .divisionByZero else .ok (dividend.tdiv divisor)

/-- The remainder of the quotient cut toward zero. -/
def remainder (dividend divisor : Int) : Except Failure Int :=
  if divisor = 0 then .error .divisionByZero else .ok (dividend.tmod divisor)

/-- The square root of the library. -/
def squareRoot (library : Library) (radicand : Int) : Except Failure Int :=
  if radicand < 0 then .error .negativeRoot
  else .ok (library.root radicand.toNat : Int)

/-- The exact power. Only the parity of the exponent matters to a base of
magnitude one, and only whether it is zero to the base zero. -/
def power (base exponent : Int) : Except Failure Int :=
  if exponent < 0 then .error .negativeExponent
  else if base = 0 then .ok (if exponent = 0 then 1 else 0)
  else if base.natAbs = 1 then .ok (if exponent % 2 = 0 then 1 else base)
  else if greatestExponent < exponent.toNat then .error .exponentTooLarge
  else .ok (Int.pow base exponent.toNat)

/-- The named operations on integers. -/
def functions (library : Library) : List (String × Operation Int) :=
  [("abs", .unary fun x => .ok (x.natAbs : Int)),
   ("neg", .unary fun x => .ok (-x)),
   ("sqrt", .unary (squareRoot library)),
   ("%", .binary remainder),
   ("^", .binary power)]

end Integer

instance : Number Int where
  Settings := Unit
  defaultSettings := ()
  describeSettings _ := "()"
  kindName := "entier"
  readLiteral? _ text := Decimal.readInteger? text.toList
  render := Decimal.intText
  plus x y := .ok (x + y)
  minus x y := .ok (x - y)
  times x y := .ok (x * y)
  dividedBy := Integer.divide
  functions _ := Integer.functions .standard

namespace Calculator

/-- The calculator of integers on a library. -/
def ofLibrary (library : Integer.Library) : Calculator Int :=
  ofEntries () (Number.arithmetic ++ Integer.functions library)

/-- A new calculator is built on the library of those that name none. -/
theorem ofSettings_eq_ofLibrary (settings : Number.Settings Int) :
    (ofSettings settings : Calculator Int) = ofLibrary .standard :=
  rfl

theorem find?_ofLibrary (library : Integer.Library) (name : String) :
    (ofLibrary library).find? name =
      (Number.arithmetic ++ Integer.functions library).reverse.lookup name :=
  find?_ofEntries () _ name

end Calculator

end PostfixCalc
