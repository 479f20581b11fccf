/-
# Doubles

Numbers in the binary64 format. A literal is any decimal that rounds to a
finite double, and names such as `inf` are not literals. Every operation but
negation checks that its result is finite, and the failure names the
operation. The written form is the shortest decimal that reads back, in
positional notation; zero keeps its sign.
-/

import PostfixCalc.Binary64.CubeRoot
import PostfixCalc.Binary64.Shortest
import PostfixCalc.Decimal.Literal
import PostfixCalc.Number

namespace PostfixCalc

namespace Floating

/-- The exponent from which further exponent digits are ignored: the literal
is then zero or out of range for any mantissa of reasonable length. -/
def exponentCeiling : Nat :=
  65536

/-- The value of exponent digits, read until the ceiling is reached. -/
def exponentValue (digits : List Char) : Nat :=
  digits.foldl
    (fun value digit =>
      if value < exponentCeiling then 10 * value + (digit.toNat - '0'.toNat) else value) 0

/-- The double whose pattern without sign is given. -/
def ofPattern (negative : Bool) (bits : Nat) : Float :=
  let magnitude := Float.ofBits bits.toUInt64
  if negative then -magnitude else magnitude

/-- The double nearest to a decimal literal, if it is finite. -/
def ofLiteral? (literal : Decimal.Literal) : Option Float :=
  let scale := literal.scale (exponentValue literal.exponentDigits)
  let bits :=
    if scale < 0 then
      Binary64.nearestBits literal.mantissa (Decimal.tenPow (-scale).toNat)
    else Binary64.nearestBits (literal.mantissa * Decimal.tenPow scale.toNat) 1
  let value := ofPattern literal.negative bits
  if value.isFinite then some value else none

/-- The double that a text denotes. -/
def readLiteral? (text : String) : Option Float :=
  (Decimal.Literal.ofChars? text.toList).bind ofLiteral?

/-- The weight of the sign bit. -/
def signBit : Nat :=
  Nat.pow 2 63

/-- The written form of a double. -/
def render (x : Float) : String :=
  let bits := x.toBits.toNat
  let sign := if signBit ≤ bits then "-" else ""
  let pattern := bits % signBit
  if pattern = 0 then sign ++ "0"
  else if pattern < Binary64.infinityBits then
    sign ++ (Binary64.shortestDecimal (Binary64.Parts.ofBits pattern)).positional
  else if pattern = Binary64.infinityBits then sign ++ "inf"
  else "NaN"

/-- A result that must be finite, under the name of its operation. -/
def checked (name : String) (x : Float) : Except Failure Float :=
  if x.isFinite then .ok x else .error (.outOfDomain name)

/-- The quotient; a zero divisor of either sign is refused first. -/
def divide (dividend divisor : Float) : Except Failure Float :=
  if divisor == 0 then .error .divisionByZero else checked "/" (dividend / divisor)

/-- The double nearest to the cube root; a zero is its own. -/
def cubeRoot (x : Float) : Float :=
  let bits := x.toBits.toNat
  let pattern := bits % signBit
  if pattern = 0 || Binary64.infinityBits ≤ pattern then x
  else ofPattern (signBit ≤ bits) (Binary64.nearestCubeRoot (Binary64.Parts.ofBits pattern))

/-- A named function of one number with a checked result. -/
def function (name : String) (rule : Float → Float) : String × Operation Float :=
  (name, .unary fun x => checked name (rule x))

/-- The double nearest to pi. -/
def pi : Float :=
  Float.ofBits 0x400921FB54442D18

/-- The double nearest to the base of natural logarithms. -/
def naturalBase : Float :=
  Float.ofBits 0x4005BF0A8B145769

/-- The named operations on doubles. -/
def functions : List (String × Operation Float) :=
  [function "sin" Float.sin,
   function "cos" Float.cos,
   function "tan" Float.tan,
   function "asin" Float.asin,
   function "acos" Float.acos,
   function "atan" Float.atan,
   function "sinh" Float.sinh,
   function "cosh" Float.cosh,
   function "tanh" Float.tanh,
   function "sqrt" Float.sqrt,
   function "cbrt" cubeRoot,
   function "ln" Float.log,
   function "log10" Float.log10,
   function "log2" Float.log2,
   function "exp" Float.exp,
   function "abs" Float.abs,
   function "floor" Float.floor,
   function "ceil" Float.ceil,
   function "round" Float.round,
   ("neg", .unary fun x => .ok (-x)),
   ("^", .binary fun x y => checked "^" (Float.pow x y)),
   ("pi", .constant pi),
   ("e", .constant naturalBase)]

end Floating

instance : Number Float where
  Settings := Unit
  defaultSettings := ()
  describeSettings _ := "()"
  kindName := "flottant"
  readLiteral? _ := Floating.readLiteral?
  render := Floating.render
  plus x y := Floating.checked "+" (x + y)
  minus x y := Floating.checked "-" (x - y)
  times x y := Floating.checked "*" (x * y)
  dividedBy := Floating.divide
  functions _ := Floating.functions

end PostfixCalc
