/-
# Formulas of rational arithmetic

A formula is a tree over rational literals and pi with absolute values,
opposites, inverses and the four operations of arithmetic. It denotes a
rational unless it divides by zero somewhere; pi stands for the number that
the calculator keeps under its names.

Main statement: the postfix writing of a formula evaluates to the rational
that the formula denotes. It fails exactly if an argument of an inverse or a
divisor of a quotient denotes zero, and with no other failure.

Roots and powers are not among the formulas: their failures are others, and a
root is not exact. A literal of a formula has its power of ten counted in 32
bits, since beyond that it is not read exactly.
-/

import Mathlib.Algebra.Order.Ring.Unbundled.Rat
import Mathlib.Tactic.NormNum
import PostfixCalc.Proofs.ExactPower
import PostfixCalc.Proofs.LiteralForms
import PostfixCalc.Proofs.PostfixValue
import PostfixCalc.Proofs.Words

namespace PostfixCalc

/-! ## Formulas and what they denote -/

/-- The two names of pi. -/
inductive PiName
  | latin
  | greek

/-- The operators on one number. -/
inductive UnaryOperator
  | magnitude
  | opposite
  | inverse

/-- The operators on two numbers. -/
inductive BinaryOperator
  | sum
  | difference
  | product
  | quotient

/-- A tree of exact arithmetic. -/
inductive Formula
  | literal (form : Decimal.RationalForm) (counted : form.scale.natAbs < 2 ^ 32)
  | pi (name : PiName)
  | unary (operator : UnaryOperator) (operand : Formula)
  | binary (operator : BinaryOperator) (left right : Formula)

def PiName.text : PiName → String
  | latin => "pi"
  | greek => "π"

namespace UnaryOperator

def text : UnaryOperator → String
  | magnitude => "abs"
  | opposite => "neg"
  | inverse => "inv"

/-- The number that the operator makes, if it makes one. -/
def number? : UnaryOperator → Rat → Option Rat
  | magnitude, x => some |x|
  | opposite, x => some (-x)
  | inverse, x => if x = 0 then none else some x⁻¹

end UnaryOperator

namespace BinaryOperator

def text : BinaryOperator → String
  | sum => "+"
  | difference => "-"
  | product => "*"
  | quotient => "/"

/-- The number that the operator makes, if it makes one. -/
def number? : BinaryOperator → Rat → Rat → Option Rat
  | sum, x, y => some (x + y)
  | difference, x, y => some (x - y)
  | product, x, y => some (x * y)
  | quotient, x, y => if y = 0 then none else some (x / y)

end BinaryOperator

namespace Formula

/-- The postfix writing: the operands from left to right, then the operator. -/
def words : Formula → List String
  | literal form _ => [form.text]
  | pi name => [name.text]
  | unary operator operand => operand.words ++ [operator.text]
  | binary operator left right => left.words ++ right.words ++ [operator.text]

/-- The words with one space between them. -/
def writing (formula : Formula) : String :=
  " ".intercalate formula.words

/-- The rational that a formula denotes for the given number under the names
of pi. A formula denotes one only if all its parts do. -/
def value? (circle : Rat) : Formula → Option Rat
  | literal form _ => some form.value
  | pi _ => some circle
  | unary operator operand => (operand.value? circle).bind operator.number?
  | binary operator left right =>
      (left.value? circle).bind fun x => (right.value? circle).bind fun y => operator.number? x y

/-- The formula itself and all below it. -/
def parts : Formula → List Formula
  | literal form counted => [literal form counted]
  | pi name => [pi name]
  | unary operator operand => unary operator operand :: operand.parts
  | binary operator left right => binary operator left right :: (left.parts ++ right.parts)

/-- What the root divides by: the argument of an inverse, or the right side of
a quotient. -/
def divisor? : Formula → Option Formula
  | unary .inverse operand => some operand
  | binary .quotient _ divisor => some divisor
  | _ => none

/-- Some part divides by a formula that denotes zero. -/
def DividesByZero (circle : Rat) (formula : Formula) : Prop :=
  ∃ part ∈ formula.parts, ∃ divisor, part.divisor? = some divisor ∧ divisor.value? circle = some 0

/-- The number of a formula, or the failure of a formula without one. -/
def outcome (circle : Rat) (formula : Formula) : Except Failure Rat :=
  (formula.value? circle).elim (.error .divisionByZero) .ok

/-! ## Where a formula denotes nothing -/

theorem dividesByZero_unary {circle : Rat} {operator : UnaryOperator} {operand : Formula} :
    (unary operator operand).DividesByZero circle ↔
      (operator = .inverse ∧ operand.value? circle = some 0) ∨ operand.DividesByZero circle := by
  cases operator <;> simp [DividesByZero, parts, divisor?]

theorem dividesByZero_binary {circle : Rat} {operator : BinaryOperator} {left right : Formula} :
    (binary operator left right).DividesByZero circle ↔
      (operator = .quotient ∧ right.value? circle = some 0) ∨
        left.DividesByZero circle ∨ right.DividesByZero circle := by
  cases operator <;> simp [DividesByZero, parts, divisor?, or_and_right, exists_or]

/-- A formula denotes nothing exactly if it divides by zero somewhere. -/
theorem value?_eq_none_iff {circle : Rat} {formula : Formula} :
    formula.value? circle = none ↔ formula.DividesByZero circle := by
  induction formula with
  | literal form counted => simp [value?, DividesByZero, parts, divisor?]
  | pi name => simp [value?, DividesByZero, parts, divisor?]
  | unary operator operand ih =>
      rw [dividesByZero_unary, ← ih, value?]
      cases operand.value? circle with
      | none => simp
      | some x => cases operator <;> simp [UnaryOperator.number?]
  | binary operator left right left_ih right_ih =>
      rw [dividesByZero_binary, ← left_ih, ← right_ih, value?]
      cases left.value? circle with
      | none => simp
      | some x =>
          cases right.value? circle with
          | none => simp
          | some y => cases operator <;> simp [BinaryOperator.number?]

end Formula

/-! ## What a calculator knows under the operators -/

section Known

variable (precision : Precision)

theorem PiName.meaning? (name : PiName) :
    (Calculator.ofSettings precision : Calculator Rat).meaning? name.text =
      some (.constant (Approx.pi precision.digits)) := by
  have refused : (Calculator.ofSettings precision : Calculator Rat).readLiteral? name.text =
      none := by
    cases name <;> rfl
  rw [Calculator.meaning?_of_refused _ refused, Calculator.find?_ofSettings]
  cases name <;> rfl

/-- An operator is known as an operation that makes its number, or fails as a
division by zero. -/
theorem UnaryOperator.exists_operation (operator : UnaryOperator) :
    ∃ operation, (Calculator.ofSettings precision : Calculator Rat).meaning? operator.text =
        some operation ∧ operation.arity = 1 ∧
      ∀ x, operation.apply [x] = (operator.number? x).elim (.error .divisionByZero) .ok := by
  have refused : (Calculator.ofSettings precision : Calculator Rat).readLiteral? operator.text =
      none := by
    cases operator <;> rfl
  rw [Calculator.meaning?_of_refused _ refused, Calculator.find?_ofSettings]
  cases operator with
  | magnitude => exact ⟨_, rfl, rfl, fun x => congrArg Except.ok (Rational.abs_eq_abs x)⟩
  | opposite => exact ⟨_, rfl, rfl, fun x => rfl⟩
  | inverse =>
      refine ⟨_, rfl, rfl, fun x => ?_⟩
      show Rational.inverse x = _
      rw [Rational.inverse, UnaryOperator.number?]
      split <;> rfl

theorem BinaryOperator.exists_operation (operator : BinaryOperator) :
    ∃ operation, (Calculator.ofSettings precision : Calculator Rat).meaning? operator.text =
        some operation ∧ operation.arity = 2 ∧
      ∀ x y, operation.apply [x, y] = (operator.number? x y).elim (.error .divisionByZero) .ok := by
  have refused : (Calculator.ofSettings precision : Calculator Rat).readLiteral? operator.text =
      none := by
    cases operator <;> rfl
  rw [Calculator.meaning?_of_refused _ refused, Calculator.find?_ofSettings]
  cases operator with
  | sum => exact ⟨_, rfl, rfl, fun x y => rfl⟩
  | difference => exact ⟨_, rfl, rfl, fun x y => rfl⟩
  | product => exact ⟨_, rfl, rfl, fun x y => rfl⟩
  | quotient =>
      refine ⟨_, rfl, rfl, fun x y => ?_⟩
      show Rational.divide x y = _
      rw [Rational.divide, BinaryOperator.number?]
      split <;> rfl

end Known

/-! ## Evaluation -/

namespace Decimal

theorem Sign.isBlank_of_mem {sign : Sign} {c : Char} (member : c ∈ sign.chars) :
    Text.isBlank c = false := by
  cases sign with
  | absent => cases member
  | plus => rw [List.mem_singleton.mp member]; rfl
  | minus => rw [List.mem_singleton.mp member]; rfl

theorem IntegerForm.isBlank_of_mem {form : IntegerForm} {c : Char} (member : c ∈ form.chars) :
    Text.isBlank c = false := by
  rcases List.mem_append.mp member with sign | digit
  · exact Sign.isBlank_of_mem sign
  · exact Text.isBlank_of_isDigit (form.digits.isDigit_of_mem c digit)

theorem DecimalForm.isBlank_of_mem {form : DecimalForm} {c : Char} (member : c ∈ form.chars) :
    Text.isBlank c = false := by
  rcases Rational.mem_piece_of_mem_decimal member with sign | mantissa | ⟨exponent, mark | power⟩
  · exact Sign.isBlank_of_mem sign
  · rcases isDigit_or_point mantissa with digit | rfl
    · exact Text.isBlank_of_isDigit digit
    · rfl
  · rcases exponent.mark_eq with lower | upper
    · rw [mark, lower]; rfl
    · rw [mark, upper]; rfl
  · exact IntegerForm.isBlank_of_mem power

/-- A literal is one word. -/
theorem RationalForm.isWord_text (form : RationalForm) : Text.IsWord form.text := by
  unfold Text.IsWord RationalForm.text
  rw [String.toList_ofList]
  cases form with
  | fraction numerator denominator nonzero =>
      refine ⟨by simp [chars], fun c member => ?_⟩
      rcases List.mem_append.mp member with upper | behind
      · exact IntegerForm.isBlank_of_mem upper
      rcases List.mem_cons.mp behind with rfl | lower
      · rfl
      · exact Text.isBlank_of_isDigit (denominator.isDigit_of_mem c lower)
  | decimal form bounded =>
      refine ⟨fun empty => ?_, fun c member => DecimalForm.isBlank_of_mem member⟩
      have no_body := (List.append_eq_nil_iff.mp empty).2
      exact form.mantissa_ne_nil (List.append_eq_nil_iff.mp no_body).1

end Decimal

/-- A text with a meaning is applied to any arguments of the right number. -/
theorem Expression.exists_application {α : Type} [Number α] {calculator : Calculator α}
    {text : String} {operation : Operation α}
    (known : calculator.meaning? text = some operation)
    (operands : List (Expression calculator)) (count : operands.length = operation.arity) :
    ∃ expression : Expression calculator,
      expression.words = operands.flatMap Expression.words ++ [text] ∧
        expression.value = (operands.map Expression.value).mapM id >>= operation.apply := by
  obtain ⟨expression, rfl, rfl⟩ := exists_expression known operands count
  obtain ⟨operation', known', _, decided⟩ := expression.exists_meaning
  cases known.symm.trans known'
  exact ⟨expression, expression.words_eq, decided⟩

namespace Formula

theorem isWord_of_mem_words {formula : Formula} : ∀ word ∈ formula.words, Text.IsWord word := by
  induction formula with
  | literal form counted => simpa [words] using form.isWord_text
  | pi name =>
      cases name <;> simpa [words] using by decide
  | unary operator operand ih =>
      have own : Text.IsWord operator.text := by cases operator <;> decide
      simpa [words, or_imp, forall_and, own] using ih
  | binary operator left right left_ih right_ih =>
      have own : Text.IsWord operator.text := by cases operator <;> decide
      simpa [words, or_imp, forall_and, own] using ⟨left_ih, right_ih⟩

theorem words_writing (formula : Formula) : Text.words formula.writing = formula.words :=
  Text.words_intercalate isWord_of_mem_words

/-- The words of a formula are those of an expression with the same outcome. -/
theorem exists_expression (precision : Precision) (formula : Formula) :
    ∃ expression : Expression (Calculator.ofSettings precision : Calculator Rat),
      expression.words = formula.words ∧
        expression.value = formula.outcome (Approx.pi precision.digits) := by
  induction formula with
  | literal form counted =>
      have reads : (Calculator.ofSettings precision : Calculator Rat).readLiteral? form.text =
          some form.value :=
        Rational.readLiteral?_text counted
      exact ⟨.literal form.text form.value reads, rfl, rfl⟩
  | pi name =>
      exact Expression.exists_application (name.meaning? precision) [] rfl
  | unary operator operand ih =>
      obtain ⟨argument, argument_words, argument_value⟩ := ih
      obtain ⟨operation, known, arity, applied⟩ := operator.exists_operation precision
      obtain ⟨expression, written, decided⟩ :=
        Expression.exists_application known [argument] arity.symm
      refine ⟨expression, by simp [written, argument_words, words], ?_⟩
      rw [decided, List.map_singleton, argument_value, mapM_id_cons, outcome, outcome, value?]
      cases operand.value? (Approx.pi precision.digits) with
      | none => rfl
      | some x => exact applied x
  | binary operator left right left_ih right_ih =>
      obtain ⟨first, first_words, first_value⟩ := left_ih
      obtain ⟨second, second_words, second_value⟩ := right_ih
      obtain ⟨operation, known, arity, applied⟩ := operator.exists_operation precision
      obtain ⟨expression, written, decided⟩ :=
        Expression.exists_application known [first, second] arity.symm
      refine ⟨expression, by simp [written, first_words, second_words, words], ?_⟩
      rw [decided, List.map_cons, List.map_singleton, first_value, second_value, mapM_id_cons,
        mapM_id_cons, outcome, outcome, outcome, value?]
      cases left.value? (Approx.pi precision.digits) with
      | none => rfl
      | some x =>
          cases right.value? (Approx.pi precision.digits) with
          | none => rfl
          | some y => exact applied x y

end Formula

namespace Calculator

/-- The outcome of a formula is that of every equation with its words. -/
theorem evaluate_of_words_eq (precision : Precision) (formula : Formula) {equation : String}
    (written : Text.words equation = formula.words) :
    (ofSettings precision : Calculator Rat).evaluate equation =
      (formula.outcome (Approx.pi precision.digits)).mapError .arithmetic := by
  obtain ⟨expression, expression_words, expression_value⟩ := formula.exists_expression precision
  have texts : (Token.ofEquation equation).map Token.text = expression.words := by
    rw [Token.ofEquation, Token.map_text_numbered, written, expression_words]
  have pushed := expression.reach_words [] texts
  rw [expression_value] at pushed
  cases result : formula.outcome (Approx.pi precision.digits) with
  | error failure =>
      rw [result] at pushed
      exact evaluate_of_reach_error _ pushed
  | ok value =>
      rw [result] at pushed
      exact (evaluate_eq_ok_iff _).mpr pushed

/-- The postfix writing of a formula, and every equation with the same words,
evaluates to the rational that the formula denotes. There is none exactly if
the formula divides by zero somewhere, and then the division by zero is the
error; the equation has no other. -/
theorem evaluate_formula (precision : Precision) (formula : Formula) :
    Text.words formula.writing = formula.words ∧
    ∀ equation, Text.words equation = formula.words →
      (∀ value, (ofSettings precision : Calculator Rat).evaluate equation = .ok value ↔
        formula.value? (Approx.pi precision.digits) = some value) ∧
      ((∃ error, (ofSettings precision : Calculator Rat).evaluate equation = .error error) ↔
        formula.DividesByZero (Approx.pi precision.digits)) ∧
      ∀ error, (ofSettings precision : Calculator Rat).evaluate equation = .error error →
        error = .arithmetic .divisionByZero ∧ error.message = "division par zéro" := by
  refine ⟨formula.words_writing, fun equation written => ?_⟩
  rw [evaluate_of_words_eq precision formula written, ← Formula.value?_eq_none_iff, Formula.outcome]
  generalize formula.value? (Approx.pi precision.digits) = denoted
  cases denoted with
  | some number =>
      refine ⟨fun value => ?_, ?_, fun error fails => by cases fails⟩
      · show Except.ok number = .ok value ↔ _
        simp
      · simp [Except.mapError]
  | none =>
      refine ⟨fun value => ?_, ⟨fun _ => rfl, fun _ => ⟨_, rfl⟩⟩, fun error fails => ?_⟩
      · simp [Except.mapError]
      · cases fails
        exact ⟨rfl, rfl⟩

/-- A quotient whose divisor is the difference between the two names of pi, and
an inverse that is exact. -/
theorem quotient_by_difference_of_pi :
    (∃ formula : Formula, Text.words "1/2 pi\tπ  - /" = formula.words ∧
      (ofSettings (Precision.ofNat 7) : Calculator Rat).evaluate "1/2 pi\tπ  - /" =
        .error (.arithmetic .divisionByZero)) ∧
    ∃ formula : Formula, Text.words " -.5e0 inv 1/2 *" = formula.words ∧
      (ofSettings (Precision.ofNat 7) : Calculator Rat).evaluate " -.5e0 inv 1/2 *" = .ok (-1) := by
  have half_short : "1/2".utf8ByteSize < 2 ^ 31 := by decide
  have minus_half_short : "-.5e0".utf8ByteSize < 2 ^ 31 := by decide
  obtain ⟨half, half_text, half_value⟩ := (Rational.readLiteral?_eq_some_iff half_short).mp
    (show Rational.readLiteral? "1/2" = some (1 / 2) by decide +kernel)
  obtain ⟨minus_half, minus_half_text, minus_half_value⟩ :=
    (Rational.readLiteral?_eq_some_iff minus_half_short).mp
      (show Rational.readLiteral? "-.5e0" = some (-1 / 2) by decide +kernel)
  rw [← half_text] at half_short
  rw [← minus_half_text] at minus_half_short
  let vanishing : Formula := .binary .difference (.pi .latin) (.pi .greek)
  let half_literal : Formula := .literal half (Rational.natAbs_scale_lt half_short)
  let failing : Formula := .binary .quotient half_literal vanishing
  let exact_product : Formula :=
    .binary .product
      (.unary .inverse (.literal minus_half (Rational.natAbs_scale_lt minus_half_short)))
      half_literal
  have failing_words : Text.words "1/2 pi\tπ  - /" = failing.words := by
    simp only [failing, half_literal, vanishing, Formula.words, half_text]
    decide
  have product_words : Text.words " -.5e0 inv 1/2 *" = exact_product.words := by
    simp only [exact_product, half_literal, Formula.words, half_text, minus_half_text]
    decide
  obtain ⟨_, of_failing⟩ := evaluate_formula (Precision.ofNat 7) failing
  obtain ⟨_, of_product⟩ := evaluate_formula (Precision.ofNat 7) exact_product
  refine ⟨⟨failing, failing_words, ?_⟩, ⟨exact_product, product_words, ?_⟩⟩
  · obtain ⟨_, fails_iff, only⟩ := of_failing _ failing_words
    obtain ⟨error, fails⟩ := fails_iff.mpr
      ⟨failing, .head _, vanishing, rfl,
        by simp [vanishing, Formula.value?, BinaryOperator.number?]⟩
    rw [fails, (only error fails).1]
  · obtain ⟨evaluates_iff, _, _⟩ := of_product _ product_words
    apply (evaluates_iff _).mpr
    norm_num [exact_product, half_literal, Formula.value?, UnaryOperator.number?,
      BinaryOperator.number?, half_value, minus_half_value]

end Calculator

end PostfixCalc
