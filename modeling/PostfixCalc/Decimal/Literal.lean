/-
# Literals in base ten

Three shapes of literal share their pieces: an integer is a sign and digits, a
fraction is an integer over digits, and a decimal is a sign, digits around an
optional point, and an optional exponent after `e` or `E`. The readers here
recognise a shape and keep its pieces; which decimals are accepted, and what
number they denote, is for each kind of number to say.
-/

import PostfixCalc.Decimal.Digits

namespace PostfixCalc.Decimal

/-- An optional sign in front: whether it is a minus, and the rest. -/
def splitSign : List Char → Bool × List Char
  | '-' :: rest => (true, rest)
  | '+' :: rest => (false, rest)
  | rest => (false, rest)

/-- What stands before the first character of a class, and what follows that
character if there is one. -/
def splitFirst (here : Char → Bool) : List Char → List Char × Option (List Char)
  | [] => ([], none)
  | c :: rest =>
      if here c then ([], some rest)
      else
        let (before, after) := splitFirst here rest
        (c :: before, after)

/-- A magnitude with its sign. -/
def signed (negative : Bool) (magnitude : Nat) : Int :=
  if negative then -(magnitude : Int) else magnitude

/-- The integer written as an optional sign and digits. -/
def readInteger? (chars : List Char) : Option Int :=
  let (negative, digits) := splitSign chars
  if isDigits digits then some (signed negative (digitsValue digits)) else none

theorem splitSign_of_isDigits {digits : List Char} (allDigits : isDigits digits = true) :
    splitSign digits = (false, digits) := by
  unfold splitSign
  split
  · simp [isDigits, Char.isDigit] at allDigits
  · simp [isDigits, Char.isDigit] at allDigits
  · rfl

/-- A written integer reads back. -/
theorem readInteger?_intText (z : Int) : readInteger? (intText z).toList = some z := by
  by_cases negative : z < 0
  · have value : signed true z.natAbs = z := by
      show -(z.natAbs : Int) = z
      omega
    simp [readInteger?, intText, negative, splitSign, isDigits_natText, digitsValue_natText,
      value]
  · have value : signed false z.natAbs = z := by
      show (z.natAbs : Int) = z
      omega
    simp [readInteger?, intText, negative, splitSign_of_isDigits, isDigits_natText,
      digitsValue_natText, value]

/-- The rational written as an integer, a slash and digits that are not all zero. -/
def readFraction? (chars : List Char) : Option Rat :=
  match splitFirst (· = '/') chars with
  | (numerator, some denominator) =>
      match readInteger? numerator with
      | some n =>
          if isDigits denominator ∧ digitsValue denominator ≠ 0 then
            some (mkRat n (digitsValue denominator))
          else none
      | none => none
  | (_, none) => none

/-- The pieces of a decimal literal. An absent exponent is an empty run of
digits, and so is an absent part of the mantissa. -/
structure Literal where
  negative : Bool
  whole : List Char
  fraction : List Char
  exponentNegative : Bool
  exponentDigits : List Char
  deriving DecidableEq, Repr

namespace Literal

/-- The mark that opens an exponent. -/
def isExponentMark (c : Char) : Bool :=
  c = 'e' || c = 'E'

/-- The pieces of a text with at least one mantissa digit and, after an
exponent mark, at least one exponent digit. -/
def ofChars? (chars : List Char) : Option Literal :=
  let (negative, body) := splitSign chars
  let (mantissa, tail) := splitFirst isExponentMark body
  let (whole, afterPoint) := splitFirst (· = '.') mantissa
  let fraction := afterPoint.getD []
  if isDigits (whole ++ fraction) then
    match tail with
    | none => some ⟨negative, whole, fraction, false, []⟩
    | some exponent =>
        let (exponentNegative, exponentDigits) := splitSign exponent
        if isDigits exponentDigits then
          some ⟨negative, whole, fraction, exponentNegative, exponentDigits⟩
        else none
  else none

/-- The integer that all mantissa digits write together, without sign. -/
def mantissa (literal : Literal) : Nat :=
  digitsValue (literal.whole ++ literal.fraction)

/-- The power of ten that multiplies the mantissa, for a written exponent of
the given magnitude. -/
def scale (literal : Literal) (magnitude : Nat) : Int :=
  signed literal.exponentNegative magnitude - literal.fraction.length

end Literal

end PostfixCalc.Decimal
