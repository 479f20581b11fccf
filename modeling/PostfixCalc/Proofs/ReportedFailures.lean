/-
# Failures that exact numbers report

The failure that ends an evaluation comes from the operation at fault, and this
operation was given as many arguments as it takes. So whatever the known
operations may report on that many arguments bounds what an evaluation reports.

Main statement: a new calculator of an exact kind of number reports one of five
failures, and never that an operation was given the wrong number of arguments.
-/

import PostfixCalc.Proofs.KeptNumbers
import PostfixCalc.Number.Rational

namespace PostfixCalc

variable {α : Type}

/-- On as many arguments as it takes, an operation fails only as allowed. -/
def Operation.Reports (allowed : Failure → Prop) (operation : Operation α) : Prop :=
  ∀ arguments, arguments.length = operation.arity →
    ∀ failure, operation.apply arguments = .error failure → allowed failure

namespace Operation.Reports

variable {allowed : Failure → Prop}

theorem constant (value : α) : (Operation.constant value).Reports allowed :=
  fun _ _ _ impossible => nomatch impossible

theorem unary {rule : α → Except Failure α}
    (each : ∀ x failure, rule x = .error failure → allowed failure) :
    (Operation.unary rule).Reports allowed := by
  intro arguments full
  obtain ⟨x, rfl⟩ := List.length_eq_one_iff.mp full
  exact each x

theorem binary {rule : α → α → Except Failure α}
    (each : ∀ x y failure, rule x y = .error failure → allowed failure) :
    (Operation.binary rule).Reports allowed := by
  intro arguments full
  obtain ⟨x, y, rfl⟩ := List.length_eq_two.mp full
  exact each x y

end Operation.Reports

namespace Calculator

variable [Number α] {calculator : Calculator α} {allowed : Failure → Prop}

/-- A literal never fails, so only what is known under a name has to be looked at. -/
theorem reports_of_meaning
    (known : ∀ name operation, calculator.find? name = some operation →
      operation.Reports allowed)
    {text : String} {operation : Operation α}
    (means : calculator.meaning? text = some operation) : operation.Reports allowed := by
  cases reads : calculator.readLiteral? text with
  | some value =>
      rw [calculator.meaning?_of_literal reads] at means
      cases means
      exact .constant value
  | none =>
      rw [calculator.meaning?_of_refused reads] at means
      exact known text operation means

/-- The failure of an evaluation was reported by a known operation. -/
theorem allowed_of_evaluate
    (known : ∀ name operation, calculator.find? name = some operation →
      operation.Reports allowed)
    {equation : String} {failure : Failure}
    (fails : calculator.evaluate equation = .error (.arithmetic failure)) : allowed failure := by
  rcases calculator.evaluate_cases equation with
    ⟨_, evaluated⟩ | ⟨error, stops, evaluated⟩ | ⟨_, _, evaluated⟩ | ⟨_, _, _, evaluated⟩
  · cases evaluated.symm.trans fails
  · cases evaluated.symm.trans fails
    obtain ⟨_, token, _, reached, _, _, at_fault⟩ := calculator.reach_eq_error_iff.mp stops
    rcases calculator.step_eq_error_iff.mp at_fault with
      ⟨_, other⟩ | ⟨operation, means, ⟨_, other⟩ | ⟨enough, found, reports, same⟩⟩
    · cases other
    · cases other
    · cases same
      refine reports_of_meaning known means _ ?_ failure reports
      rw [List.length_reverse, List.length_take, Nat.min_eq_left enough]
  · cases evaluated.symm.trans fails
  · cases evaluated.symm.trans fails

theorem allowed_of_ofEntries {settings : Number.Settings α}
    {entries : List (String × Operation α)} (each : ∀ entry ∈ entries, entry.2.Reports allowed)
    {equation : String} {failure : Failure}
    (fails : (ofEntries settings entries).evaluate equation = .error (.arithmetic failure)) :
    allowed failure :=
  allowed_of_evaluate (fun _ _ known => each _ (mem_of_find?_ofEntries known)) fails

end Calculator

/-! ## The exact kinds of number -/

/-- A failure that operations on exact numbers report. -/
inductive ExactFailure : Failure → Prop
  | divisionByZero : ExactFailure .divisionByZero
  | negativeRoot : ExactFailure .negativeRoot
  | fractionalExponent : ExactFailure .fractionalExponent
  | negativeExponent : ExactFailure .negativeExponent
  | exponentTooLarge : ExactFailure .exponentTooLarge

namespace ExactFailure

variable {failure : Failure}

theorem of_ok {value : α} (fails : (.ok value : Except Failure α) = .error failure) :
    ExactFailure failure :=
  nomatch fails

/-- A rule that refuses in one case reports the failure of this case. -/
theorem of_refusal {refused : Prop} [Decidable refused] {reason : Failure} {value : α}
    (exact_reason : ExactFailure reason)
    (fails : (if refused then .error reason else .ok value : Except Failure α) =
      .error failure) : ExactFailure failure := by
  split at fails <;> cases fails
  exact exact_reason

theorem of_squareRoot {precision : Precision} {r : Rat}
    (fails : Rational.squareRoot precision r = .error failure) : ExactFailure failure := by
  unfold Rational.squareRoot at fails
  split at fails <;> cases fails
  exact .negativeRoot

theorem of_rationalPower {base exponent : Rat}
    (fails : Rational.power base exponent = .error failure) : ExactFailure failure := by
  unfold Rational.power at fails
  split_ifs at fails <;> cases fails
  · exact .fractionalExponent
  · exact .divisionByZero
  · exact .exponentTooLarge

theorem of_integerPower {base exponent : Int}
    (fails : Integer.power base exponent = .error failure) : ExactFailure failure := by
  unfold Integer.power at fails
  split_ifs at fails <;> cases fails
  · exact .negativeExponent
  · exact .exponentTooLarge

end ExactFailure

namespace Calculator

open ExactFailure

theorem rational_reports (precision : Precision) :
    ∀ entry ∈ (initialOperations precision : List (String × Operation Rat)),
      entry.2.Reports ExactFailure := by
  have root : (Operation.unary (Rational.squareRoot precision)).Reports ExactFailure :=
    .unary fun _ _ => of_squareRoot
  have pi : (Operation.constant (Approx.pi precision.digits)).Reports ExactFailure := .constant _
  simp only [initialOperations, Number.arithmetic, Number.functions, Rational.functions,
    List.forall_mem_append, List.forall_mem_cons]
  exact ⟨⟨.binary fun _ _ _ => of_ok, .binary fun _ _ _ => of_ok, .binary fun _ _ _ => of_ok,
      .binary fun _ _ _ => of_refusal .divisionByZero, List.forall_mem_nil _⟩,
    root, root, pi, pi, .unary fun _ _ => of_ok, .unary fun _ _ => of_ok,
    .unary fun _ _ => of_refusal .divisionByZero, .binary fun _ _ _ => of_rationalPower,
    List.forall_mem_nil _⟩

theorem integer_reports (library : Integer.Library) :
    ∀ entry ∈ Number.arithmetic ++ Integer.functions library, entry.2.Reports ExactFailure := by
  simp only [Number.arithmetic, Integer.functions, List.forall_mem_append, List.forall_mem_cons]
  exact ⟨⟨.binary fun _ _ _ => of_ok, .binary fun _ _ _ => of_ok, .binary fun _ _ _ => of_ok,
      .binary fun _ _ _ => of_refusal .divisionByZero, List.forall_mem_nil _⟩,
    .unary fun _ _ => of_ok, .unary fun _ _ => of_ok,
    .unary fun _ _ => of_refusal .negativeRoot,
    .binary fun _ _ _ => of_refusal .divisionByZero, .binary fun _ _ _ => of_integerPower,
    List.forall_mem_nil _⟩

end Calculator

end PostfixCalc
