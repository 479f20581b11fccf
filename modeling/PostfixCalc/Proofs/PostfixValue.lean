/-
# The value of an equation is that of its expression

The stack holds, from the bottom up, the values of the expressions that the
words consumed so far have written. This invariant is kept by every token in
both directions: a stack that is reached is accounted for by expressions, and
a sequence of expressions with values is reached from its writing.

Main statement: the expressions that the words of an equation write decide
every outcome that is not a fault.
-/

import Mathlib.Data.Set.Subsingleton
import PostfixCalc.Number.Integer
import PostfixCalc.Proofs.Expression

namespace PostfixCalc

section Collect

variable {α : Type}

theorem mapM_id_cons (result : Except Failure α) (rest : List (Except Failure α)) :
    (result :: rest).mapM id =
      match result with
      | .error failure => .error failure
      | .ok value => (rest.mapM id).map (value :: ·) := by
  rw [List.mapM_cons]
  cases result <;> rfl

/-- Results come to a list of values exactly if each of them is its value. -/
theorem mapM_id_eq_ok_iff {results : List (Except Failure α)} {values : List α} :
    results.mapM id = .ok values ↔ results = values.map .ok := by
  induction results generalizing values with
  | nil => cases values <;> simp [pure, Except.pure]
  | cons result rest ih =>
      rw [mapM_id_cons]
      cases result with
      | error failure => cases values <;> simp
      | ok value =>
          cases values with
          | nil => cases rest.mapM id <;> simp [Except.map]
          | cons first others =>
              rw [List.map_cons, List.cons.injEq, ← ih, Except.ok.injEq]
              cases rest.mapM id <;> simp [Except.map]

end Collect

namespace Expression

variable {α : Type} [Number α] {calculator : Calculator α}

/-- An expression has a value exactly if its arguments have values on which
the operation of the root succeeds. -/
theorem value_eq_ok_iff {expression : Expression calculator} {result : α} :
    expression.value = .ok result ↔
      ∃ operation values, calculator.meaning? expression.head = some operation ∧
        values.length = operation.arity ∧
        expression.arguments.map value = values.map .ok ∧
        operation.apply values = .ok result := by
  obtain ⟨operation, known, count, decided⟩ := expression.exists_meaning
  rw [decided]
  constructor
  · intro succeeds
    cases collected : (expression.arguments.map value).mapM id with
    | error failure =>
        rw [collected] at succeeds
        cases succeeds
    | ok values =>
        rw [collected] at succeeds
        have each := mapM_id_eq_ok_iff.mp collected
        refine ⟨operation, values, known, ?_, each, succeeds⟩
        rw [← count, ← List.length_map (f := value), each, List.length_map]
  · intro parts
    obtain ⟨operation', values, known', _, each, succeeds⟩ := parts
    cases known.symm.trans known'
    rw [mapM_id_eq_ok_iff.mpr each]
    exact succeeds

/-- The writing of expressions pushes their values in order. Whatever follows
from the writing of each of them alone follows for all of them together. -/
theorem reach_flatMap_words {expressions : List (Expression calculator)}
    (each : ∀ expression ∈ expressions, ∀ (stack : List α) (tokens : List Token),
      tokens.map Token.text = expression.words →
      calculator.reach stack tokens =
        (expression.value.map (· :: stack)).mapError .arithmetic)
    (stack : List α) {tokens : List Token}
    (written : tokens.map Token.text = expressions.flatMap words) :
    calculator.reach stack tokens =
      (((expressions.map value).mapM id).map (·.reverse ++ stack)).mapError .arithmetic := by
  induction expressions generalizing stack tokens with
  | nil =>
      rw [List.flatMap_nil, List.map_eq_nil_iff] at written
      subst written
      rfl
  | cons expression rest ih =>
      rw [List.flatMap_cons, List.map_eq_append_iff] at written
      obtain ⟨own, others, rfl, own_written, others_written⟩ := written
      have pushed := each expression List.mem_cons_self stack own own_written
      rw [List.map_cons, mapM_id_cons]
      cases result : expression.value with
      | error failure =>
          rw [result] at pushed
          exact calculator.reach_append_of_error pushed others
      | ok pushedValue =>
          rw [result] at pushed
          rw [calculator.reach_append_of_ok pushed,
            ih (fun other member => each other (List.mem_cons_of_mem _ member)) _ others_written]
          cases (rest.map value).mapM id with
          | error failure => rfl
          | ok values => simp [Except.map, Except.mapError]

/-- The writing of an expression pushes its value on whatever stack, or stops
at its failure. -/
theorem reach_words (expression : Expression calculator) (stack : List α) {tokens : List Token}
    (written : tokens.map Token.text = expression.words) :
    calculator.reach stack tokens =
      (expression.value.map (· :: stack)).mapError .arithmetic := by
  induction expression using induction_on_arguments generalizing stack tokens with
  | step expression ih =>
      obtain ⟨operation, known, count, decided⟩ := expression.exists_meaning
      rw [words_eq, List.map_eq_append_iff] at written
      obtain ⟨operands, root, rfl, operands_written, root_written⟩ := written
      obtain ⟨token, rfl, same_text⟩ := List.map_eq_singleton_iff.mp root_written
      have pushed := reach_flatMap_words
        (fun argument member stack _ => ih argument member stack) stack operands_written
      rw [decided]
      cases collected : (expression.arguments.map value).mapM id with
      | error failure =>
          rw [collected] at pushed
          exact calculator.reach_append_of_error pushed [token]
      | ok values =>
          rw [collected] at pushed
          have values_count : values.reverse.length = operation.arity := by
            rw [List.length_reverse, ← count, ← List.length_map (f := value),
              mapM_id_eq_ok_iff.mp collected, List.length_map]
          rw [calculator.reach_append_of_ok pushed]
          have enough : operation.arity ≤ (values.reverse ++ stack).length := by
            rw [List.length_append]
            omega
          have effect := calculator.step_of_enough (same_text ▸ known) enough
          rw [List.take_left' values_count, List.drop_left' values_count,
            List.reverse_reverse] at effect
          show _ = ((operation.apply values).map (· :: stack)).mapError EvalError.arithmetic
          cases applied : operation.apply values with
          | error failure =>
              rw [applied] at effect
              exact calculator.reach_cons_of_error effect []
          | ok result =>
              rw [applied] at effect
              exact calculator.reach_cons_of_ok effect []

/-- Expressions account for a stack that words lead to: they write the words,
and their values make up the stack from the bottom up. -/
structure AccountFor (expressions : List (Expression calculator)) (texts : List String)
    (stack : List α) : Prop where
  written : expressions.flatMap words = texts
  valued : expressions.map value = stack.reverse.map .ok

/-- A token turns the expressions at the top of the stack into the arguments
of one more expression. -/
theorem AccountFor.step {expressions : List (Expression calculator)} {texts : List String}
    {stack : List α} {token : Token} {step : Step α}
    (account : AccountFor expressions texts stack)
    (succeeds : calculator.step stack token = .ok step) :
    ∃ later : List (Expression calculator),
      AccountFor later (texts ++ [token.text]) step.stack := by
  obtain ⟨operation, result, known, enough, applied, rfl⟩ :=
    calculator.step_eq_ok_iff.mp succeeds
  have same_length : expressions.length = stack.length := by
    simpa using congrArg List.length account.valued
  let kept := expressions.length - operation.arity
  have split_length : stack.length - kept = operation.arity := by omega
  obtain ⟨expression, same_text, operands⟩ :=
    exists_expression known (expressions.drop kept) (by rw [List.length_drop]; omega)
  refine ⟨expressions.take kept ++ [expression], ?_, ?_⟩
  · rw [flatMap_words_append_singleton, operands, List.take_append_drop, account.written,
      same_text]
  · have applied_value : expression.value = .ok result := by
      refine value_eq_ok_iff.mpr ⟨operation, _, same_text ▸ known, ?_, ?_, applied⟩
      · rw [List.length_reverse, List.length_take_of_le enough]
      · rw [operands, List.map_drop, account.valued, ← List.map_drop, List.drop_reverse,
          split_length]
    rw [List.map_append, List.map_take, account.valued, ← List.map_take, List.take_reverse,
      split_length, List.map_singleton, applied_value]
    simp [Step.stack]

/-- Every stack that tokens lead to is accounted for. -/
theorem exists_accountFor {tokens : List Token} {reached : List α}
    {stack : List α} {expressions : List (Expression calculator)} {texts : List String}
    (account : AccountFor expressions texts stack)
    (reaches : calculator.reach stack tokens = .ok reached) :
    ∃ later : List (Expression calculator),
      AccountFor later (texts ++ tokens.map Token.text) reached := by
  induction tokens generalizing stack expressions texts with
  | nil =>
      cases reaches
      rw [List.map_nil, List.append_nil]
      exact ⟨expressions, account⟩
  | cons token rest ih =>
      obtain ⟨step, succeeds, continues⟩ := calculator.reach_cons_eq_ok_iff.mp reaches
      obtain ⟨next, next_account⟩ := account.step succeeds
      obtain ⟨later, later_account⟩ := ih next_account continues
      rw [List.append_assoc] at later_account
      exact ⟨later, later_account⟩

/-- Tokens lead from the empty stack to exactly those stacks that expressions
with this writing account for. -/
theorem reach_eq_ok_iff {tokens : List Token} {stack : List α} :
    calculator.reach [] tokens = .ok stack ↔
      ∃ expressions : List (Expression calculator),
        AccountFor expressions (tokens.map Token.text) stack := by
  constructor
  · intro reaches
    have start : AccountFor ([] : List (Expression calculator)) [] ([] : List α) := ⟨rfl, rfl⟩
    exact exists_accountFor start reaches
  · intro accounted
    obtain ⟨expressions, written, valued⟩ := accounted
    have pushed := reach_flatMap_words
      (fun expression _ stack _ => expression.reach_words stack) [] written.symm
    rw [mapM_id_eq_ok_iff.mpr valued] at pushed
    simpa [Except.map, Except.mapError] using pushed

end Expression

namespace Calculator

variable {α : Type} [Number α]

/-- An equation has a value exactly if its words write one expression that has
this value. It leaves a stack exactly if its words write two or more
expressions that have values, and the stack shows these from the first to the
last. The words write at most one sequence of expressions, and none only if
there are no words. -/
theorem evaluate_iff_expressions (calculator : Calculator α) (equation : String) :
    (∀ value, calculator.evaluate equation = .ok value ↔
      ∃ expression : Expression calculator,
        Text.words equation = expression.words ∧ expression.value = .ok value) ∧
    (∀ entries, calculator.evaluate equation = .error (.leftoverStack entries) ↔
      ∃ (expressions : List (Expression calculator)) (values : List α),
        2 ≤ expressions.length ∧ Text.words equation = expressions.flatMap Expression.words ∧
          expressions.map Expression.value = values.map .ok ∧
          entries = values.map Number.render) ∧
    (calculator.evaluate equation = .error .emptyEquation ↔ Text.words equation = []) ∧
    Set.Subsingleton { expressions : List (Expression calculator) |
      Text.words equation = expressions.flatMap Expression.words } := by
  have texts : (Token.ofEquation equation).map Token.text = Text.words equation :=
    Token.map_text_numbered 1 _
  refine ⟨fun value => ?_, fun entries => ?_, ?_, ?_⟩
  · rw [calculator.evaluate_eq_ok_iff, Expression.reach_eq_ok_iff, texts]
    constructor
    · intro accounted
      obtain ⟨expressions, written, valued⟩ := accounted
      obtain ⟨expression, rfl, has_value⟩ := List.map_eq_singleton_iff.mp valued
      exact ⟨expression, by simpa using written.symm, has_value⟩
    · intro written_by
      obtain ⟨expression, written, has_value⟩ := written_by
      exact ⟨[expression], by simp [written], by simp [has_value]⟩
  · rw [calculator.evaluate_eq_leftoverStack_iff]
    simp only [Expression.reach_eq_ok_iff, texts]
    constructor
    · intro left_over
      obtain ⟨stack, ⟨expressions, written, valued⟩, several, rfl⟩ := left_over
      have same_length : expressions.length = stack.length := by
        simpa using congrArg List.length valued
      exact ⟨expressions, stack.reverse, same_length ▸ several, written.symm, valued, rfl⟩
    · intro written_by
      obtain ⟨expressions, values, several, written, valued, rfl⟩ := written_by
      have same_length : expressions.length = values.length := by
        simpa using congrArg List.length valued
      refine ⟨values.reverse, ⟨expressions, written.symm, ?_⟩, ?_, ?_⟩
      · rw [valued, List.reverse_reverse]
      · rw [List.length_reverse, ← same_length]
        exact several
      · rw [Number.renderStack, List.reverse_reverse]
  · rw [calculator.evaluate_eq_emptyEquation_iff, ← texts, List.map_eq_nil_iff]
  · intro first first_written second second_written
    exact Expression.eq_of_flatMap_words_eq (first_written.symm.trans second_written)

example : (standard : Calculator Int).evaluate "12 2 3 4 * 10 5 / + * + 3" =
    .error (.leftoverStack ["40", "3"]) := by
  decide +kernel

end Calculator

end PostfixCalc
