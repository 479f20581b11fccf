/-
# What a trace shows

A trace is made from the completed steps of the run that decides the value,
and each of these steps was taken on the stack that the tokens before it lead
to. The stack shown at a token is therefore the one that the equation cut off
behind this token would leave.

Nothing is claimed of a trace for an equation without a value, since there is
none.
-/

import Mathlib.Data.List.DropRight
import PostfixCalc.Number.Integer
import PostfixCalc.Proofs.Reach
import PostfixCalc.Proofs.Words
import PostfixCalc.Trace

namespace PostfixCalc

/-- How many numbers a token took off the stack. -/
def Role.arity : Role → Nat
  | .literal => 0
  | .function arity => arity

/-- The entries shown before the step at an index; there are none before the first step. -/
def Trace.entriesBefore (steps : List TraceStep) : Nat → List String
  | 0 => []
  | index + 1 => (steps[index]?.map TraceStep.entries).getD []

theorem Number.renderStack_cons_drop {α : Type} [Number α] (value : α) (stack : List α)
    (count : Nat) :
    Number.renderStack (value :: stack.drop count) =
      (Number.renderStack stack).rdrop count ++ [Number.render value] := by
  rw [List.rdrop_eq_reverse_drop_reverse, Number.renderStack, Number.renderStack,
    ← List.map_reverse, List.reverse_reverse, ← List.map_drop, ← List.map_reverse,
    List.reverse_cons, List.map_append, List.map_singleton]

namespace Calculator

variable {α : Type} [Number α] (calculator : Calculator α)

theorem roleOf_eq_literal_iff {text : String} {operation : Operation α} :
    calculator.roleOf text operation = .literal ↔
      ∃ value, calculator.readLiteral? text = some value := by
  unfold roleOf
  cases calculator.readLiteral? text <;> simp

theorem roleOf_of_refused {text : String} {operation : Operation α}
    (refused : calculator.readLiteral? text = none) :
    calculator.roleOf text operation = .function operation.arity := by
  rw [roleOf, refused]

theorem arity_roleOf {text : String} {operation : Operation α}
    (known : calculator.meaning? text = some operation) :
    (calculator.roleOf text operation).arity = operation.arity := by
  cases reads : calculator.readLiteral? text with
  | some value =>
      rw [calculator.meaning?_of_literal reads] at known
      cases known
      rw [calculator.roleOf_eq_literal_iff.mpr ⟨value, reads⟩]
      rfl
  | none =>
      rw [calculator.roleOf_of_refused reads]
      rfl

section Steps

variable {tokens : List Token}

/-- A step was taken by the token at its index, on the stack that the tokens
before it lead to. -/
theorem step_of_getElem? {stack : List α} {index : Nat} {step : Step α}
    (here : (calculator.runFrom stack tokens).steps[index]? = some step) :
    ∃ before token, calculator.reach stack (tokens.take index) = .ok before ∧
      tokens[index]? = some token ∧ calculator.step before token = .ok step := by
  induction tokens generalizing stack index with
  | nil => cases here
  | cons token rest ih =>
      cases effect : calculator.step stack token with
      | error error =>
          rw [runFrom_cons, effect] at here
          cases here
      | ok first =>
          rw [runFrom_cons, effect] at here
          cases index with
          | zero =>
              cases here
              exact ⟨stack, token, rfl, rfl, effect⟩
          | succ index =>
              obtain ⟨before, later, reached, there, succeeds⟩ := ih here
              refine ⟨before, later, ?_, there, succeeds⟩
              rw [List.take_succ_cons, calculator.reach_cons_of_ok effect]
              exact reached

/-- The tokens up to a step lead to the stack after it. -/
theorem reach_take_succ {stack : List α} {index : Nat} {step : Step α}
    (here : (calculator.runFrom stack tokens).steps[index]? = some step) :
    calculator.reach stack (tokens.take (index + 1)) = .ok step.stack := by
  obtain ⟨before, token, reached, there, succeeds⟩ := calculator.step_of_getElem? here
  rw [List.take_add_one, there, calculator.reach_append_of_ok reached]
  exact calculator.reach_cons_of_ok succeeds []

/-- Every token of a run without a fault has its step. -/
theorem map_token_steps {stack reached : List α}
    (reaches : calculator.reach stack tokens = .ok reached) :
    (calculator.runFrom stack tokens).steps.map Step.token = tokens := by
  induction tokens generalizing stack with
  | nil => rfl
  | cons token rest ih =>
      obtain ⟨step, succeeds, continues⟩ := calculator.reach_cons_eq_ok_iff.mp reaches
      have same_token : step.token = token := by
        obtain ⟨_, _, _, _, _, rfl⟩ := calculator.step_eq_ok_iff.mp succeeds
        rfl
      rw [runFrom_cons, succeeds]
      simp only [Run.cons, List.map_cons, same_token, ih continues]

/-- The last step of a run that leads to a stack shows this stack. -/
theorem getLast?_steps {stack reached : List α} (nonempty : tokens ≠ [])
    (reaches : calculator.reach stack tokens = .ok reached) :
    ∃ step, (calculator.runFrom stack tokens).steps.getLast? = some step ∧
      step.stack = reached := by
  induction tokens generalizing stack with
  | nil => exact absurd rfl nonempty
  | cons token rest ih =>
      obtain ⟨step, succeeds, continues⟩ := calculator.reach_cons_eq_ok_iff.mp reaches
      rw [runFrom_cons, succeeds]
      cases rest with
      | nil =>
          cases continues
          exact ⟨step, rfl, rfl⟩
      | cons next others =>
          obtain ⟨last, is_last, left⟩ := ih (List.cons_ne_nil _ _) continues
          refine ⟨last, ?_, left⟩
          simp only [Run.cons, List.getLast?_cons, is_last, Option.getD_some]

/-- The stack before a step is shown by the step before it. -/
theorem entriesBefore_trace {index : Nat} {step : Step α} {before : List α}
    (here : (calculator.runFrom [] tokens).steps[index]? = some step)
    (reached : calculator.reach [] (tokens.take index) = .ok before) :
    Trace.entriesBefore (calculator.runFrom [] tokens).trace index =
      Number.renderStack before := by
  cases index with
  | zero =>
      cases reached
      rfl
  | succ index =>
      obtain ⟨inside, _⟩ := List.getElem?_eq_some_iff.mp here
      have earlier := List.getElem?_eq_getElem (Nat.lt_of_succ_lt inside)
      have same := calculator.reach_take_succ earlier
      rw [reached, Except.ok.injEq] at same
      rw [Trace.entriesBefore, Run.trace, List.getElem?_map, earlier, same]
      rfl

end Steps

/-- What a trace shows about the token at an index of an equation: what the
token is, the stack that the equation would leave if it ended there, and how
this stack came from the one shown before. -/
structure ShownAt (equation : String) (steps : List TraceStep) (index : Nat)
    (shown : TraceStep) : Prop where
  literal_iff : shown.role = .literal ↔
    ∃ value, calculator.readLiteral? shown.token.text = some value
  function_of_refused : calculator.readLiteral? shown.token.text = none →
    ∃ operation, calculator.find? shown.token.text = some operation ∧
      shown.role = .function operation.arity
  alone : (∃ value,
      calculator.evaluate (" ".intercalate ((Text.words equation).take (index + 1))) =
        .ok value ∧ shown.entries = [Number.render value]) ∨
    calculator.evaluate (" ".intercalate ((Text.words equation).take (index + 1))) =
      .error (.leftoverStack shown.entries)
  enough : shown.role.arity ≤ (Trace.entriesBefore steps index).length
  change : ∃ entry,
    shown.entries = (Trace.entriesBefore steps index).rdrop shown.role.arity ++ [entry]

theorem explain_eq (equation : String) :
    calculator.explain equation =
      (calculator.evaluate equation).map fun value => (value, (calculator.run equation).trace) := by
  cases outcome : (calculator.run equation).value <;>
    simp only [explain, evaluate, outcome, Except.map]

theorem explain_eq_ok_iff {equation : String} {value : α} {steps : List TraceStep} :
    calculator.explain equation = .ok (value, steps) ↔
      calculator.evaluate equation = .ok value ∧ steps = (calculator.run equation).trace := by
  rw [calculator.explain_eq]
  cases calculator.evaluate equation <;> simp [Except.map, eq_comm]

/-- The words up to an index, as an equation of their own, leave the stack
after the step of the last of them. -/
theorem evaluate_take {equation : String} {index : Nat} {step : Step α}
    (here : (calculator.runFrom [] (Token.ofEquation equation)).steps[index]? = some step) :
    (∃ value,
      calculator.evaluate (" ".intercalate ((Text.words equation).take (index + 1))) =
        .ok value ∧ Number.renderStack step.stack = [Number.render value]) ∨
    calculator.evaluate (" ".intercalate ((Text.words equation).take (index + 1))) =
      .error (.leftoverStack (Number.renderStack step.stack)) := by
  have reached := calculator.reach_take_succ here
  have tokens_eq : (Token.ofEquation equation).take (index + 1) =
      Token.ofEquation (" ".intercalate ((Text.words equation).take (index + 1))) := by
    have each : ∀ word ∈ (Text.words equation).take (index + 1), Text.IsWord word :=
      fun word member => Text.isWord_of_mem_words (List.mem_of_mem_take member)
    rw [Token.ofEquation_intercalate each, Token.numbered_take, Token.ofEquation]
  rw [tokens_eq] at reached
  have nonblank : Token.ofEquation
      (" ".intercalate ((Text.words equation).take (index + 1))) ≠ [] := by
    intro blank
    rw [blank] at reached
    cases reached
  rcases calculator.evaluate_of_reach_ok nonblank reached with
    ⟨value, single, evaluated⟩ | ⟨_, evaluated⟩
  · refine .inl ⟨value, evaluated, ?_⟩
    rw [single]
    rfl
  · exact .inr evaluated

theorem shownAt_of_getElem? {equation : String} {index : Nat} {step : Step α}
    (here : (calculator.runFrom [] (Token.ofEquation equation)).steps[index]? = some step) :
    calculator.ShownAt equation (calculator.runFrom [] (Token.ofEquation equation)).trace index
      ⟨step.token, step.role, Number.renderStack step.stack⟩ := by
  obtain ⟨before, token, reached, _, succeeds⟩ := calculator.step_of_getElem? here
  have earlier := calculator.entriesBefore_trace here reached
  have alone := calculator.evaluate_take here
  obtain ⟨operation, value, known, enough, _, rfl⟩ := calculator.step_eq_ok_iff.mp succeeds
  have arity_eq := calculator.arity_roleOf known
  refine ⟨calculator.roleOf_eq_literal_iff, fun refused => ?_, alone, ?_, ?_⟩
  · rw [calculator.meaning?_of_refused refused] at known
    exact ⟨operation, known, calculator.roleOf_of_refused refused⟩
  · rw [arity_eq, earlier, Number.renderStack, List.length_map, List.length_reverse]
    exact enough
  · rw [arity_eq, earlier]
    exact ⟨Number.render value, Number.renderStack_cons_drop value before operation.arity⟩

/-- An equation has a trace exactly if it has a value, and otherwise the same
error. The trace has one step for each token in order, each of which shows
what the equation up to this token leaves; the last one shows the value alone. -/
theorem explain_iff_evaluate (equation : String) :
    (∀ error, calculator.explain equation = .error error ↔
      calculator.evaluate equation = .error error) ∧
    (∀ value, (∃ steps, calculator.explain equation = .ok (value, steps)) ↔
      calculator.evaluate equation = .ok value) ∧
    (∀ value steps, calculator.explain equation = .ok (value, steps) →
      steps.map TraceStep.token = Token.ofEquation equation ∧
      (∀ index shown, steps[index]? = some shown →
        calculator.ShownAt equation steps index shown) ∧
      steps.getLast?.map TraceStep.entries = some [Number.render value]) := by
  refine ⟨fun error => ?_, fun value => ?_, fun value steps explained => ?_⟩
  · rw [calculator.explain_eq]
    cases calculator.evaluate equation <;> simp [Except.map]
  · simp [calculator.explain_eq_ok_iff]
  · obtain ⟨evaluated, rfl⟩ := calculator.explain_eq_ok_iff.mp explained
    have reached := calculator.evaluate_eq_ok_iff.mp evaluated
    have nonblank : Token.ofEquation equation ≠ [] := by
      intro blank
      rw [blank] at reached
      cases reached
    rw [calculator.run_of_token nonblank]
    refine ⟨?_, fun index shown here => ?_, ?_⟩
    · rw [Run.trace, List.map_map]
      exact calculator.map_token_steps reached
    · rw [Run.trace, List.getElem?_map, Option.map_eq_some_iff] at here
      obtain ⟨step, there, rfl⟩ := here
      exact calculator.shownAt_of_getElem? there
    · obtain ⟨last, is_last, left⟩ := calculator.getLast?_steps nonblank reached
      rw [Run.trace, List.getLast?_map, is_last]
      simp [left, Number.renderStack]

/-- A sum with its trace: it has one step for each token, the last of which
took two numbers and shows the value alone. A quotient by zero has no trace. -/
theorem explain_of_sum_and_quotient :
    (standard : Calculator Int).explain "2 3 +" =
      .ok (5, [⟨⟨"2", 1⟩, .literal, ["2"]⟩, ⟨⟨"3", 2⟩, .literal, ["2", "3"]⟩,
        ⟨⟨"+", 3⟩, .function 2, ["5"]⟩]) ∧
    Token.ofEquation "2 3 +" = [⟨"2", 1⟩, ⟨"3", 2⟩, ⟨"+", 3⟩] ∧
    (standard : Calculator Int).ShownAt "2 3 +"
      [⟨⟨"2", 1⟩, .literal, ["2"]⟩, ⟨⟨"3", 2⟩, .literal, ["2", "3"]⟩,
        ⟨⟨"+", 3⟩, .function 2, ["5"]⟩] 2 ⟨⟨"+", 3⟩, .function 2, ["5"]⟩ ∧
    (standard : Calculator Int).evaluate "2 3 +" = .ok 5 ∧
    (standard : Calculator Int).evaluate "2 0 /" = .error (.arithmetic .divisionByZero) ∧
    (standard : Calculator Int).explain "2 0 /" = .error (.arithmetic .divisionByZero) := by
  have explained : (standard : Calculator Int).explain "2 3 +" =
      .ok (5, [⟨⟨"2", 1⟩, .literal, ["2"]⟩, ⟨⟨"3", 2⟩, .literal, ["2", "3"]⟩,
        ⟨⟨"+", 3⟩, .function 2, ["5"]⟩]) := rfl
  have fails : (standard : Calculator Int).evaluate "2 0 /" =
      .error (.arithmetic .divisionByZero) := rfl
  obtain ⟨same_error, _, _⟩ := explain_iff_evaluate (standard : Calculator Int) "2 0 /"
  obtain ⟨_, same_value, shows⟩ := explain_iff_evaluate (standard : Calculator Int) "2 3 +"
  obtain ⟨tokens, shown, _⟩ := shows 5 _ explained
  exact ⟨explained, tokens.symm, shown 2 _ rfl, (same_value 5).mp ⟨_, explained⟩, fails,
    (same_error _).mpr fails⟩

end Calculator

end PostfixCalc
