/-
# Demands of the exact kinds of number

What an exact kind of number brings is written once more with its demands. A
literal is cut behind its exponent mark and may become a quotient, quotients
and remainders and inverses divide, and a power divides by two for its parity
and inverts what it accumulated.

Main statements: each reader and each rule meets all of its demands, since what
it divides by was looked at before or is a power of something that is not zero,
and the exponent mark is a single byte. So the readers agree with the plain
ones, and the operations with the plain operations, name by name.
-/

import PostfixCalc.Proofs.ApproximationDemands
import PostfixCalc.Proofs.ExactPower

namespace PostfixCalc.Checked

/-! ## Literals -/

/-- What stands before the first character of a class, and what begins one byte
behind the start of that character. -/
def splitBehindByte (here : Char → Bool) : List Char → Checked (List Char × Option (List Char))
  | [] => return ([], none)
  | c :: rest =>
      if here c then demand .cutCharacter (c.utf8Size = 1) ([], some rest)
      else do
        let (before, after) ← splitBehindByte here rest
        return (c :: before, after)

/-- The pieces of a decimal literal. -/
def literalOfChars? (chars : List Char) : Checked (Option Decimal.Literal) := do
  let (negative, body) := Decimal.splitSign chars
  let (mantissa, tail) ← splitBehindByte Decimal.Literal.isExponentMark body
  let (whole, afterPoint) := Decimal.splitFirst (· = '.') mantissa
  let fraction := afterPoint.getD []
  if Decimal.isDigits (whole ++ fraction) then
    match tail with
    | none => return some ⟨negative, whole, fraction, false, []⟩
    | some exponent =>
        let (exponentNegative, exponentDigits) := Decimal.splitSign exponent
        if Decimal.isDigits exponentDigits then
          return some ⟨negative, whole, fraction, exponentNegative, exponentDigits⟩
        else return none
  else return none

/-- An integer times a power of ten: an integer again, or a quotient by a power of ten. -/
def scaled (number scale : Int) : Checked Rat :=
  if 0 ≤ scale then return ((number * Decimal.unitsPerOne scale.toNat : Int) : Rat)
  else ofScaled number (-scale).toNat

/-- The value of a decimal literal. -/
def ofLiteral? (literal : Decimal.Literal) : Checked (Option Rat) :=
  let magnitude := Decimal.digitsValue literal.exponentDigits
  if Rational.greatestLiteralExponent < magnitude then return none
  else
    return some (← scaled (Decimal.signed literal.negative literal.mantissa)
      (literal.scale magnitude))

/-- The rational written as a fraction. -/
def readFraction? (chars : List Char) : Checked (Option Rat) :=
  match Decimal.splitFirst (· = '/') chars with
  | (numerator, some denominator) =>
      match Decimal.readInteger? numerator with
      | some n =>
          if Decimal.isDigits denominator ∧ Decimal.digitsValue denominator ≠ 0 then do
            let divisor := Decimal.digitsValue denominator
            return some (← divisionBy divisor (mkRat n divisor))
          else return none
      | none => return none
  | (_, none) => return none

/-- The rational that a text denotes. -/
def readRational? (text : String) : Checked (Option Rat) :=
  if text.toList.contains '/' then readFraction? text.toList
  else do
    match ← literalOfChars? text.toList with
    | some literal => ofLiteral? literal
    | none => return none

theorem utf8Size_of_isExponentMark {c : Char} (mark : Decimal.Literal.isExponentMark c = true) :
    c.utf8Size = 1 := by
  simp only [Decimal.Literal.isExponentMark, Bool.or_eq_true, decide_eq_true_eq] at mark
  rcases mark with rfl | rfl <;> rfl

theorem splitBehindByte_eq {here : Char → Bool} (single : ∀ c, here c = true → c.utf8Size = 1)
    (chars : List Char) : splitBehindByte here chars = .ok (Decimal.splitFirst here chars) := by
  induction chars with
  | nil => rfl
  | cons c rest ih =>
      rw [splitBehindByte, Decimal.splitFirst]
      split
      · next mark => exact demand_of_met (single c mark) _
      · next other =>
          rw [ih]
          rfl

theorem literalOfChars?_eq (chars : List Char) :
    literalOfChars? chars = .ok (Decimal.Literal.ofChars? chars) := by
  rw [literalOfChars?, Decimal.Literal.ofChars?]
  rcases Decimal.splitSign chars with ⟨negative, body⟩
  dsimp only
  rw [splitBehindByte_eq fun _ => utf8Size_of_isExponentMark, ok_bind]
  rcases Decimal.splitFirst Decimal.Literal.isExponentMark body with ⟨mantissa, tail⟩
  rcases Decimal.splitFirst (· = '.') mantissa with ⟨whole, afterPoint⟩
  dsimp only
  split
  · cases tail with
    | none => rfl
    | some exponent =>
        dsimp only
        split <;> rfl
  · rfl

theorem scaled_eq (number scale : Int) :
    scaled number scale = .ok (Rational.scaled number scale) := by
  rw [scaled, Rational.scaled]
  split
  · rfl
  · exact ofScaled_eq _ _

theorem ofLiteral?_eq (literal : Decimal.Literal) :
    ofLiteral? literal = .ok (Rational.ofLiteral? literal) := by
  simp only [ofLiteral?, Rational.ofLiteral?]
  split
  · rfl
  · rw [scaled_eq]
    rfl

theorem readFraction?_eq (chars : List Char) :
    readFraction? chars = .ok (Decimal.readFraction? chars) := by
  rw [readFraction?, Decimal.readFraction?]
  rcases Decimal.splitFirst (· = '/') chars with ⟨numerator, _ | denominator⟩
  · rfl
  dsimp only
  cases Decimal.readInteger? numerator with
  | none => rfl
  | some n =>
      dsimp only
      split
      · next accepted =>
          rw [divisionBy_of_ne_zero accepted.2]
          rfl
      · rfl

theorem readRational?_eq (text : String) :
    readRational? text = .ok (Rational.readLiteral? text) := by
  rw [readRational?, Rational.readLiteral?]
  split
  · exact readFraction?_eq _
  · rw [literalOfChars?_eq, ok_bind]
    cases Decimal.Literal.ofChars? text.toList with
    | none => rfl
    | some literal => exact ofLiteral?_eq literal

/-! ## Rules -/

/-- The result of a division, which is refused if the divisor is zero. -/
def unlessZero {α : Type} [Zero α] [DecidableEq α] (divisor result : α) :
    Checked (Except Failure α) :=
  if divisor = 0 then return .error .divisionByZero
  else return .ok (← divisionBy divisor result)

theorem unlessZero_eq {α : Type} [Zero α] [DecidableEq α] (divisor result : α) :
    unlessZero divisor result =
      .ok (if divisor = 0 then .error .divisionByZero else .ok result) := by
  rw [unlessZero]
  split
  · rfl
  · next nonzero =>
      rw [divisionBy_of_ne_zero nonzero]
      rfl

/-- Whether an exponent is even, by its remainder. -/
def isEven (exponent : Int) : Checked Bool := do
  let remainder ← divisionBy (2 : Int) (exponent % 2)
  return remainder = 0

theorem isEven_eq (exponent : Int) : isEven exponent = .ok (decide (exponent % 2 = 0)) :=
  rfl

/-- The power of a rational. What was accumulated is inverted for a negative exponent. -/
def rationalPower (base exponent : Rat) : Checked (Except Failure Rat) :=
  if exponent.den ≠ 1 then return .error .fractionalExponent
  else if base = 0 then
    if exponent.num < 0 then return .error .divisionByZero
    else return .ok (if exponent.num = 0 then 1 else 0)
  else if base.abs = 1 then return .ok (if ← isEven exponent.num then 1 else base)
  else if greatestExponent < exponent.num.natAbs then return .error .exponentTooLarge
  else
    let magnitude := Rational.timesPower 1 base exponent.num.natAbs
    if exponent.num < 0 then return .ok (← divisionBy magnitude magnitude⁻¹)
    else return .ok magnitude

/-- The square root of a rational at a precision. -/
def rationalRoot (precision : Precision) (r : Rat) : Checked (Except Failure Rat) := do
  match ← squareRoot? r precision.digits with
  | some root => return .ok root
  | none => return .error .negativeRoot

/-- The power of an integer. -/
def integerPower (base exponent : Int) : Checked (Except Failure Int) :=
  if exponent < 0 then return .error .negativeExponent
  else if base = 0 then return .ok (if exponent = 0 then 1 else 0)
  else if base.natAbs = 1 then return .ok (if ← isEven exponent then 1 else base)
  else if greatestExponent < exponent.toNat then return .error .exponentTooLarge
  else return .ok (Int.pow base exponent.toNat)

/-- The square root of an integer, which a library takes of no negative one. -/
def integerRoot (library : Integer.Library) (radicand : Int) : Checked (Except Failure Int) :=
  if radicand < 0 then return .error .negativeRoot
  else
    return .ok (← demand .negativeRadicand (0 ≤ radicand) (library.root radicand.toNat : Int))

/-- What is accumulated for a power of a number that is not zero is not zero. -/
theorem timesPower_ne_zero {base : Rat} (nonzero : base ≠ 0) (exponent : Nat) :
    Rational.timesPower 1 base exponent ≠ 0 := by
  rw [Rational.timesPower_eq, one_mul]
  exact pow_ne_zero exponent nonzero

theorem rationalPower_eq (base exponent : Rat) :
    rationalPower base exponent = .ok (Rational.power base exponent) := by
  unfold rationalPower Rational.power
  split
  · rfl
  split
  · split <;> rfl
  next nonzero =>
  split
  · rw [isEven_eq, ok_bind]
    simp
  split
  · rfl
  dsimp only
  rw [Rational.integerPower, divisionBy_of_ne_zero (timesPower_ne_zero nonzero _)]
  split <;> rfl

theorem rationalRoot_eq (precision : Precision) (r : Rat) :
    rationalRoot precision r = .ok (Rational.squareRoot precision r) := by
  rw [rationalRoot, Rational.squareRoot, squareRoot?_eq, ok_bind]
  cases Approx.squareRoot? r precision.digits <;> rfl

theorem integerPower_eq (base exponent : Int) :
    integerPower base exponent = .ok (Integer.power base exponent) := by
  unfold integerPower Integer.power
  split
  · rfl
  split
  · rfl
  split
  · rw [isEven_eq, ok_bind]
    simp
  split <;> rfl

theorem integerRoot_eq (library : Integer.Library) (radicand : Int) :
    integerRoot library radicand = .ok (Integer.squareRoot library radicand) := by
  rw [integerRoot, Integer.squareRoot]
  split
  · rfl
  · next nonneg =>
      rw [demand_of_met (not_lt.mp nonneg)]
      rfl

end PostfixCalc.Checked
