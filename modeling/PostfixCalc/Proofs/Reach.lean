/-
# Stacks reached

The outcome of processing tokens, apart from the two accounts that a run keeps.
Everything that one token can do is said once, by `step_eq_ok_iff` and
`step_eq_error_iff`; what follows is derived from these two. The record of a
token is the one that its step calls for, so the two accounts of a run tell of
the same tokens.

Main statements: a stack may be extended below without being noticed as long
as the tokens find their arguments, positions matter only to the errors that
show them, and the outcome decides the value of an equation.
-/

import PostfixCalc.Evaluation

namespace PostfixCalc

namespace EvalError

/-- An error with the token at fault replaced, where there is one. -/
def mapToken (relabel : Token → Token) : EvalError → EvalError
  | .unknownElement token => .unknownElement (relabel token)
  | .missingArguments token => .missingArguments (relabel token)
  | error => error

end EvalError

namespace Token

variable {equation : String}

theorem cut_of_no_token (blank : ofEquation equation = []) :
    cut equation = .error .emptyEquation := by
  rw [cut, blank]

theorem cut_of_token (nonblank : ofEquation equation ≠ []) :
    cut equation = .ok (ofEquation equation) := by
  unfold cut
  cases tokens : ofEquation equation with
  | nil => exact absurd tokens nonblank
  | cons token rest => rfl

end Token

/-- The record that a step calls for. -/
def Step.record {α : Type} [Number α] (step : Step α) : Record :=
  match step.role with
  | .literal => .pushed step.token (Number.render step.top)
  | .function arity => .applied step.token arity (Number.render step.top)

theorem Step.level_record {α : Type} [Number α] (step : Step α) :
    step.record.level = .trace := by
  unfold Step.record
  cases step.role <;> rfl

namespace Calculator

variable {α : Type} [Number α] (calculator : Calculator α)

/-- The operation that a text stands for. A literal is a constant, whatever is
registered under the same text. -/
def meaning? (text : String) : Option (Operation α) :=
  match calculator.readLiteral? text with
  | some value => some (.constant value)
  | none => calculator.find? text

/-- What a text with the given meaning is for the evaluation. -/
def roleOf (text : String) (operation : Operation α) : Role :=
  match calculator.readLiteral? text with
  | some _ => .literal
  | none => .function operation.arity

theorem meaning?_of_literal {text : String} {value : α}
    (reads : calculator.readLiteral? text = some value) :
    calculator.meaning? text = some (.constant value) := by
  simp [meaning?, reads]

theorem meaning?_of_refused {text : String}
    (refused : calculator.readLiteral? text = none) :
    calculator.meaning? text = calculator.find? text := by
  simp [meaning?, refused]

/-- The step of a token, without its record. -/
def step (stack : List α) (token : Token) : Except EvalError (Step α) :=
  (calculator.effect stack token).map Prod.snd

/-- A token is recorded as its step calls for. -/
theorem effect_eq (stack : List α) (token : Token) :
    calculator.effect stack token =
      (calculator.step stack token).map fun step => (step.record, step) := by
  unfold step effect
  cases calculator.readLiteral? token.text with
  | some value => rfl
  | none =>
      dsimp only
      unfold applyName
      cases calculator.find? token.text with
      | none => rfl
      | some operation =>
          dsimp only
          split
          · rfl
          · cases operation.apply (stack.take operation.arity).reverse <;> rfl

/-- Tokens are processed step by step. -/
theorem runFrom_cons (stack : List α) (token : Token) (rest : List Token) :
    calculator.runFrom stack (token :: rest) =
      match calculator.step stack token with
      | .error error => ⟨[], [], .error error⟩
      | .ok step => (calculator.runFrom step.stack rest).cons step.record step := by
  rw [runFrom, effect_eq]
  cases calculator.step stack token <;> rfl

/-- The records of a run are those of its steps. -/
theorem records_runFrom (stack : List α) (tokens : List Token) :
    (calculator.runFrom stack tokens).records =
      (calculator.runFrom stack tokens).steps.map Step.record := by
  induction tokens generalizing stack with
  | nil => rfl
  | cons token rest ih =>
      rw [runFrom_cons]
      cases calculator.step stack token with
      | error error => rfl
      | ok step => simp only [Run.cons, List.map_cons, ih]

/-- What a token with a meaning does to a stack that holds enough arguments. -/
theorem step_of_enough {stack : List α} {token : Token} {operation : Operation α}
    (known : calculator.meaning? token.text = some operation)
    (enough : operation.arity ≤ stack.length) :
    calculator.step stack token =
      match operation.apply (stack.take operation.arity).reverse with
      | .error failure => .error (.arithmetic failure)
      | .ok value => .ok ⟨token, calculator.roleOf token.text operation, value,
          stack.drop operation.arity⟩ := by
  cases reads : calculator.readLiteral? token.text with
  | some value =>
      rw [calculator.meaning?_of_literal reads] at known
      cases known
      simp [Calculator.step, effect, roleOf, reads, Operation.constant, Except.map]
  | none =>
      rw [calculator.meaning?_of_refused reads] at known
      have full : (stack.take operation.arity).length = operation.arity :=
        List.length_take_of_le enough
      cases applied : operation.apply (stack.take operation.arity).reverse <;>
        simp [Calculator.step, effect, applyName, roleOf, reads, known, full, applied, Except.map]

theorem step_of_unknown {stack : List α} {token : Token}
    (unknown : calculator.meaning? token.text = none) :
    calculator.step stack token = .error (.unknownElement token) := by
  cases reads : calculator.readLiteral? token.text with
  | some value =>
      rw [calculator.meaning?_of_literal reads] at unknown
      cases unknown
  | none =>
      rw [calculator.meaning?_of_refused reads] at unknown
      simp [Calculator.step, effect, applyName, reads, unknown, Except.map]

theorem step_of_missing {stack : List α} {token : Token} {operation : Operation α}
    (known : calculator.meaning? token.text = some operation)
    (missing : stack.length < operation.arity) :
    calculator.step stack token = .error (.missingArguments token) := by
  cases reads : calculator.readLiteral? token.text with
  | some value =>
      rw [calculator.meaning?_of_literal reads] at known
      cases known
      simp [Operation.constant] at missing
  | none =>
      rw [calculator.meaning?_of_refused reads] at known
      have short : (stack.take operation.arity).length < operation.arity := by
        rw [List.length_take]
        omega
      simp only [Calculator.step, effect, applyName, reads, known, short, if_true, Except.map]

/-- A token succeeds exactly if it has a meaning, the stack holds enough
arguments and the operation succeeds on the topmost ones. -/
theorem step_eq_ok_iff {stack : List α} {token : Token} {step : Step α} :
    calculator.step stack token = .ok step ↔
      ∃ operation value, calculator.meaning? token.text = some operation ∧
        operation.arity ≤ stack.length ∧
        operation.apply (stack.take operation.arity).reverse = .ok value ∧
        step = ⟨token, calculator.roleOf token.text operation, value,
          stack.drop operation.arity⟩ := by
  constructor
  · intro succeeds
    cases known : calculator.meaning? token.text with
    | none =>
        rw [calculator.step_of_unknown known] at succeeds
        cases succeeds
    | some operation =>
        by_cases missing : stack.length < operation.arity
        · rw [calculator.step_of_missing known missing] at succeeds
          cases succeeds
        · have enough := Nat.le_of_not_lt missing
          rw [calculator.step_of_enough known enough] at succeeds
          split at succeeds
          · cases succeeds
          · next value applied =>
              cases succeeds
              exact ⟨operation, value, rfl, enough, applied, rfl⟩
  · intro found
    obtain ⟨operation, value, known, enough, applied, rfl⟩ := found
    rw [calculator.step_of_enough known enough, applied]

/-- A token fails in one of three ways, in this order of precedence. -/
theorem step_eq_error_iff {stack : List α} {token : Token} {error : EvalError} :
    calculator.step stack token = .error error ↔
      (calculator.meaning? token.text = none ∧ error = .unknownElement token) ∨
      ∃ operation, calculator.meaning? token.text = some operation ∧
        ((stack.length < operation.arity ∧ error = .missingArguments token) ∨
          (operation.arity ≤ stack.length ∧
            ∃ failure, operation.apply (stack.take operation.arity).reverse = .error failure ∧
              error = .arithmetic failure)) := by
  constructor
  · intro fails
    cases known : calculator.meaning? token.text with
    | none =>
        rw [calculator.step_of_unknown known] at fails
        cases fails
        exact .inl ⟨rfl, rfl⟩
    | some operation =>
        refine .inr ⟨operation, rfl, ?_⟩
        by_cases missing : stack.length < operation.arity
        · rw [calculator.step_of_missing known missing] at fails
          cases fails
          exact .inl ⟨missing, rfl⟩
        · have enough := Nat.le_of_not_lt missing
          rw [calculator.step_of_enough known enough] at fails
          split at fails
          · next failure applied =>
              cases fails
              exact .inr ⟨enough, failure, applied, rfl⟩
          · cases fails
  · intro cause
    rcases cause with
      ⟨unknown, rfl⟩ | ⟨operation, known, ⟨missing, rfl⟩ | ⟨enough, failure, applied, rfl⟩⟩
    · exact calculator.step_of_unknown unknown
    · exact calculator.step_of_missing known missing
    · rw [calculator.step_of_enough known enough, applied]

/-- The stack to which tokens lead from a given stack, or the first fault. -/
def reach (stack : List α) (tokens : List Token) : Except EvalError (List α) :=
  (calculator.runFrom stack tokens).outcome

@[simp]
theorem reach_nil (stack : List α) : calculator.reach stack [] = .ok stack :=
  rfl

theorem reach_cons_of_ok {stack : List α} {token : Token} {step : Step α}
    (succeeds : calculator.step stack token = .ok step) (rest : List Token) :
    calculator.reach stack (token :: rest) = calculator.reach step.stack rest := by
  simp [reach, runFrom_cons, succeeds, Run.cons]

theorem reach_cons_of_error {stack : List α} {token : Token} {error : EvalError}
    (fails : calculator.step stack token = .error error) (rest : List Token) :
    calculator.reach stack (token :: rest) = .error error := by
  simp [reach, runFrom_cons, fails]

theorem reach_append_of_ok {stack reached : List α} {first : List Token}
    (reaches : calculator.reach stack first = .ok reached) (second : List Token) :
    calculator.reach stack (first ++ second) = calculator.reach reached second := by
  unfold reach at *
  simp [runFrom_append, Run.andThen, reaches]

theorem reach_append_of_error {stack : List α} {first : List Token} {error : EvalError}
    (fails : calculator.reach stack first = .error error) (second : List Token) :
    calculator.reach stack (first ++ second) = .error error := by
  unfold reach at *
  simp [runFrom_append, Run.andThen, fails]

/-- Tokens succeed in two parts, the second from where the first ended. -/
theorem reach_append_eq_ok_iff {stack reached : List α} {first second : List Token} :
    calculator.reach stack (first ++ second) = .ok reached ↔
      ∃ middle, calculator.reach stack first = .ok middle ∧
        calculator.reach middle second = .ok reached := by
  cases start : calculator.reach stack first with
  | error error => simp [calculator.reach_append_of_error start]
  | ok middle => simp [calculator.reach_append_of_ok start]

/-- Tokens succeed together exactly if the first does and the others do after it. -/
theorem reach_cons_eq_ok_iff {stack reached : List α} {token : Token} {rest : List Token} :
    calculator.reach stack (token :: rest) = .ok reached ↔
      ∃ step, calculator.step stack token = .ok step ∧
        calculator.reach step.stack rest = .ok reached := by
  cases first : calculator.step stack token with
  | error error => simp [calculator.reach_cons_of_error first]
  | ok step => simp [calculator.reach_cons_of_ok first]

/-- Tokens fail either at the first or after it. -/
theorem reach_cons_eq_error_iff {stack : List α} {token : Token} {rest : List Token}
    {error : EvalError} :
    calculator.reach stack (token :: rest) = .error error ↔
      calculator.step stack token = .error error ∨
        ∃ step, calculator.step stack token = .ok step ∧
          calculator.reach step.stack rest = .error error := by
  cases first : calculator.step stack token with
  | error error => simp [calculator.reach_cons_of_error first]
  | ok step => simp [calculator.reach_cons_of_ok first]

/-- Tokens fail exactly at the first of them that fails on the stack reached
by those before it. -/
theorem reach_eq_error_iff {stack : List α} {tokens : List Token} {error : EvalError} :
    calculator.reach stack tokens = .error error ↔
      ∃ before token after reached, tokens = before ++ token :: after ∧
        calculator.reach stack before = .ok reached ∧
        calculator.step reached token = .error error := by
  constructor
  · intro fails
    induction tokens generalizing stack with
    | nil => cases fails
    | cons token rest ih =>
        rcases calculator.reach_cons_eq_error_iff.mp fails with
          stops | ⟨step, succeeds, continues⟩
        · exact ⟨[], token, rest, stack, rfl, rfl, stops⟩
        · obtain ⟨before, faulty, after, reached, rfl, reaches, stops⟩ := ih continues
          refine ⟨token :: before, faulty, after, reached, rfl, ?_, stops⟩
          rw [calculator.reach_cons_of_ok succeeds]
          exact reaches
  · intro first_fault
    obtain ⟨before, token, after, reached, rfl, reaches, stops⟩ := first_fault
    rw [calculator.reach_append_of_ok reaches]
    exact calculator.reach_cons_of_error stops after

/-- The last token put a number on the stack, so a stack that was reached by
tokens is not empty. -/
theorem ne_nil_of_reach {stack reached : List α} {tokens : List Token}
    (nonempty : tokens ≠ []) (reaches : calculator.reach stack tokens = .ok reached) :
    reached ≠ [] := by
  induction tokens generalizing stack with
  | nil => exact absurd rfl nonempty
  | cons token rest ih =>
      obtain ⟨step, _, continues⟩ := calculator.reach_cons_eq_ok_iff.mp reaches
      cases rest with
      | nil =>
          cases continues
          exact List.cons_ne_nil _ _
      | cons _ _ => exact ih (List.cons_ne_nil _ _) continues

/-- A token that finds its arguments does not notice what lies below them. -/
theorem step_append {stack : List α} {token : Token} {step : Step α}
    (succeeds : calculator.step stack token = .ok step) (deeper : List α) :
    calculator.step (stack ++ deeper) token =
      .ok { step with below := step.below ++ deeper } := by
  obtain ⟨operation, value, known, enough, applied, rfl⟩ :=
    calculator.step_eq_ok_iff.mp succeeds
  refine calculator.step_eq_ok_iff.mpr ⟨operation, value, known, ?_, ?_, ?_⟩
  · rw [List.length_append]
    omega
  · rw [List.take_append_of_le_length enough]
    exact applied
  · rw [List.drop_append_of_le_length enough]

/-- Tokens that succeed on a stack succeed above anything else in the same
way, and leave it in place. -/
theorem reach_append_below {stack reached : List α} {tokens : List Token}
    (reaches : calculator.reach stack tokens = .ok reached) (deeper : List α) :
    calculator.reach (stack ++ deeper) tokens = .ok (reached ++ deeper) := by
  induction tokens generalizing stack with
  | nil =>
      cases reaches
      rfl
  | cons token rest ih =>
      obtain ⟨step, succeeds, continues⟩ := calculator.reach_cons_eq_ok_iff.mp reaches
      rw [calculator.reach_cons_of_ok (calculator.step_append succeeds deeper)]
      exact ih continues

section Relabelling

variable (relabel : Token → Token) (same_text : ∀ token, (relabel token).text = token.text)

include same_text

/-- A token relabelled without a change of its text has the same effect. -/
theorem step_relabel (stack : List α) (token : Token) :
    calculator.step stack (relabel token) =
      match calculator.step stack token with
      | .error error => .error (error.mapToken relabel)
      | .ok step => .ok { step with token := relabel token } := by
  cases effect : calculator.step stack token with
  | error error =>
      apply calculator.step_eq_error_iff.mpr
      rw [same_text]
      rcases calculator.step_eq_error_iff.mp effect with
        ⟨unknown, rfl⟩ | ⟨operation, known, ⟨missing, rfl⟩ | ⟨enough, failure, applied, rfl⟩⟩
      · exact .inl ⟨unknown, rfl⟩
      · exact .inr ⟨operation, known, .inl ⟨missing, rfl⟩⟩
      · exact .inr ⟨operation, known, .inr ⟨enough, failure, applied, rfl⟩⟩
  | ok step =>
      obtain ⟨operation, value, known, enough, applied, rfl⟩ :=
        calculator.step_eq_ok_iff.mp effect
      apply calculator.step_eq_ok_iff.mpr
      rw [same_text]
      exact ⟨operation, value, known, enough, applied, rfl⟩

/-- Labels matter only to the errors that show them. -/
theorem reach_map (stack : List α) (tokens : List Token) :
    calculator.reach stack (tokens.map relabel) =
      (calculator.reach stack tokens).mapError (EvalError.mapToken relabel) := by
  induction tokens generalizing stack with
  | nil => rfl
  | cons token rest ih =>
      have relabelled := calculator.step_relabel relabel same_text stack token
      cases effect : calculator.step stack token with
      | error error =>
          rw [effect] at relabelled
          rw [List.map_cons, calculator.reach_cons_of_error relabelled,
            calculator.reach_cons_of_error effect]
          rfl
      | ok step =>
          rw [effect] at relabelled
          rw [List.map_cons, calculator.reach_cons_of_ok relabelled,
            calculator.reach_cons_of_ok effect]
          exact ih step.stack

end Relabelling

section Evaluate

variable {equation : String}

/-- A fault is about a token or comes from an operation. -/
theorem kind_of_reach_eq_error {stack : List α} {tokens : List Token} {error : EvalError}
    (fails : calculator.reach stack tokens = .error error) :
    error.kind ≠ .emptyEquation ∧ error.kind ≠ .leftoverStack := by
  obtain ⟨_, _, _, _, _, _, stops⟩ := calculator.reach_eq_error_iff.mp fails
  rcases calculator.step_eq_error_iff.mp stops with
    ⟨_, rfl⟩ | ⟨_, _, ⟨_, rfl⟩ | ⟨_, _, _, rfl⟩⟩ <;> simp [EvalError.kind]

/-- A fault about a token is about one of the tokens processed. -/
theorem token_mem_of_reach_error {stack : List α} {tokens : List Token} {error : EvalError}
    {token : Token} (fails : calculator.reach stack tokens = .error error)
    (about : error.token? = some token) : token ∈ tokens := by
  obtain ⟨before, faulty, after, reached, rfl, _, stops⟩ := calculator.reach_eq_error_iff.mp fails
  rcases calculator.step_eq_error_iff.mp stops with
    ⟨_, rfl⟩ | ⟨_, _, ⟨_, rfl⟩ | ⟨_, _, _, rfl⟩⟩
  · cases about
    simp
  · cases about
    simp
  · cases about

theorem run_of_no_token (blank : Token.ofEquation equation = []) :
    calculator.run equation = ⟨[], [], .error .emptyEquation⟩ := by
  rw [run, Token.cut_of_no_token blank]

theorem run_of_token (nonblank : Token.ofEquation equation ≠ []) :
    calculator.run equation = calculator.runFrom [] (Token.ofEquation equation) := by
  rw [run, Token.cut_of_token nonblank]

/-- The records of an equation are those of its steps. -/
theorem records_run (equation : String) :
    (calculator.run equation).records = (calculator.run equation).steps.map Step.record := by
  by_cases blank : Token.ofEquation equation = []
  · rw [calculator.run_of_no_token blank]
    rfl
  · rw [calculator.run_of_token blank, records_runFrom]

/-- The steps of an equation are those of its tokens; a blank equation has none. -/
theorem steps_run (equation : String) :
    (calculator.run equation).steps =
      (calculator.runFrom [] (Token.ofEquation equation)).steps := by
  by_cases blank : Token.ofEquation equation = []
  · rw [calculator.run_of_no_token blank, blank]
    rfl
  · rw [calculator.run_of_token blank]

/-- A blank equation has no value. -/
theorem evaluate_of_no_token (blank : Token.ofEquation equation = []) :
    calculator.evaluate equation = .error .emptyEquation := by
  rw [evaluate, calculator.run_of_no_token blank, Run.value]

/-- The first fault is the error of the equation. -/
theorem evaluate_of_reach_error {error : EvalError}
    (fails : calculator.reach [] (Token.ofEquation equation) = .error error) :
    calculator.evaluate equation = .error error := by
  have nonblank : Token.ofEquation equation ≠ [] := by
    intro blank
    rw [blank] at fails
    cases fails
  unfold reach at fails
  rw [evaluate, calculator.run_of_token nonblank, Run.value, fails]

/-- Without a fault the final stack decides. -/
theorem evaluate_of_reach_ok {stack : List α} (nonblank : Token.ofEquation equation ≠ [])
    (reaches : calculator.reach [] (Token.ofEquation equation) = .ok stack) :
    (∃ value, stack = [value] ∧ calculator.evaluate equation = .ok value) ∨
      (2 ≤ stack.length ∧
        calculator.evaluate equation = .error (.leftoverStack (Number.renderStack stack))) := by
  have nonempty := calculator.ne_nil_of_reach nonblank reaches
  unfold reach at reaches
  unfold evaluate
  rw [calculator.run_of_token nonblank, Run.value, reaches]
  match stack with
  | [] => exact absurd rfl nonempty
  | [value] => exact .inl ⟨value, rfl, rfl⟩
  | first :: second :: rest => exact .inr ⟨by simp, rfl⟩

/-- An equation is empty, or it stops at a fault, or its tokens leave one
number, or they leave several. -/
theorem evaluate_cases (equation : String) :
    (Token.ofEquation equation = [] ∧ calculator.evaluate equation = .error .emptyEquation) ∨
    (∃ error, calculator.reach [] (Token.ofEquation equation) = .error error ∧
      calculator.evaluate equation = .error error) ∨
    (∃ value, calculator.reach [] (Token.ofEquation equation) = .ok [value] ∧
      calculator.evaluate equation = .ok value) ∨
    ∃ stack, calculator.reach [] (Token.ofEquation equation) = .ok stack ∧ 2 ≤ stack.length ∧
      calculator.evaluate equation = .error (.leftoverStack (Number.renderStack stack)) := by
  by_cases blank : Token.ofEquation equation = []
  · exact .inl ⟨blank, calculator.evaluate_of_no_token blank⟩
  · refine .inr ?_
    cases outcome : calculator.reach [] (Token.ofEquation equation) with
    | error error => exact .inl ⟨error, rfl, calculator.evaluate_of_reach_error outcome⟩
    | ok stack =>
        rcases calculator.evaluate_of_reach_ok blank outcome with
          ⟨value, rfl, evaluated⟩ | ⟨several, evaluated⟩
        · exact .inr (.inl ⟨value, rfl, evaluated⟩)
        · exact .inr (.inr ⟨stack, rfl, several, evaluated⟩)

/-- An error about a token is a fault. -/
theorem reach_eq_error_of_token? {error : EvalError} {token : Token}
    (about : error.token? = some token) (fails : calculator.evaluate equation = .error error) :
    calculator.reach [] (Token.ofEquation equation) = .error error := by
  rcases calculator.evaluate_cases equation with
    ⟨_, evaluated⟩ | ⟨fault, stops, evaluated⟩ | ⟨_, _, evaluated⟩ | ⟨_, _, _, evaluated⟩
  · cases evaluated.symm.trans fails
    cases about
  · cases evaluated.symm.trans fails
    exact stops
  · cases evaluated.symm.trans fails
  · cases evaluated.symm.trans fails
    cases about

/-- Equations whose tokens lead to the same stack or to faults that differ in
their labels have the same value or errors that differ in their labels. -/
theorem evaluate_eq_mapError {first second : String} {relabel : Token → Token}
    (first_nonblank : Token.ofEquation first ≠ []) (second_nonblank : Token.ofEquation second ≠ [])
    (same : calculator.reach [] (Token.ofEquation first) =
      (calculator.reach [] (Token.ofEquation second)).mapError (EvalError.mapToken relabel)) :
    calculator.evaluate first =
      (calculator.evaluate second).mapError (EvalError.mapToken relabel) := by
  unfold reach at same
  unfold evaluate
  rw [calculator.run_of_token first_nonblank, calculator.run_of_token second_nonblank]
  simp only [Run.value]
  rw [same]
  cases (calculator.runFrom [] (Token.ofEquation second)).outcome with
  | error error => rfl
  | ok stack =>
      match stack with
      | [] => rfl
      | [value] => rfl
      | top :: next :: rest => rfl

/-- An equation has a value exactly if its tokens leave that one number. -/
theorem evaluate_eq_ok_iff {value : α} :
    calculator.evaluate equation = .ok value ↔
      calculator.reach [] (Token.ofEquation equation) = .ok [value] := by
  rcases calculator.evaluate_cases equation with
    ⟨blank, evaluated⟩ | ⟨_, stops, evaluated⟩ | ⟨_, reached, evaluated⟩ |
    ⟨stack, reached, several, evaluated⟩
  · simp [blank, evaluated]
  · simp [stops, evaluated]
  · simp [reached, evaluated]
  · rw [reached, evaluated]
    refine ⟨fun impossible => (by cases impossible), fun single => ?_⟩
    cases single
    simp at several

/-- An equation leaves too much exactly if its tokens leave several numbers. -/
theorem evaluate_eq_leftoverStack_iff {entries : List String} :
    calculator.evaluate equation = .error (.leftoverStack entries) ↔
      ∃ stack, calculator.reach [] (Token.ofEquation equation) = .ok stack ∧
        2 ≤ stack.length ∧ entries = Number.renderStack stack := by
  rcases calculator.evaluate_cases equation with
    ⟨blank, evaluated⟩ | ⟨error, stops, evaluated⟩ | ⟨_, reached, evaluated⟩ |
    ⟨stack, reached, several, evaluated⟩
  · simp [blank, evaluated]
  · have other : error ≠ .leftoverStack entries := by
      intro same
      rw [same] at stops
      exact (calculator.kind_of_reach_eq_error stops).2 rfl
    simp [stops, evaluated, other]
  · simp [reached, evaluated]
  · simp [reached, evaluated, several, eq_comm]

/-- An equation is empty exactly if it has no token. -/
theorem evaluate_eq_emptyEquation_iff :
    calculator.evaluate equation = .error .emptyEquation ↔ Token.ofEquation equation = [] := by
  refine ⟨fun empty => ?_, calculator.evaluate_of_no_token⟩
  rcases calculator.evaluate_cases equation with
    ⟨blank, _⟩ | ⟨error, stops, evaluated⟩ | ⟨_, _, evaluated⟩ | ⟨_, _, _, evaluated⟩
  · exact blank
  · cases evaluated.symm.trans empty
    exact absurd rfl (calculator.kind_of_reach_eq_error stops).1
  · cases evaluated.symm.trans empty
  · cases evaluated.symm.trans empty

end Evaluate

end Calculator

end PostfixCalc
