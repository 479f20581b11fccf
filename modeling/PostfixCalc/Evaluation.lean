/-
# Evaluation

An equation is evaluated from left to right on a stack. A token that is a
literal is pushed; otherwise it must name an operation, which takes its
arguments off the top of the stack, the deepest being the first, and pushes
its result. The first token at fault ends the evaluation. After the last
token the stack must hold exactly one number.

A run keeps two accounts of the completed tokens. A record is written while
the effect of a token is computed, and shows the token and the number that it
pushes; a step is observed afterwards, and holds the stack that the token left.
-/

import PostfixCalc.Calculator
import PostfixCalc.EvalError
import PostfixCalc.Record

namespace PostfixCalc

/-- The tokens of an equation; there must be one at least. -/
def Token.cut (equation : String) : Except EvalError (List Token) :=
  match Token.ofEquation equation with
  | [] => .error .emptyEquation
  | token :: rest => .ok (token :: rest)

/-- What a token was for the evaluation. -/
inductive Role
  | literal
  | function (arity : Nat)
  deriving DecidableEq, Repr

/-- A token whose effect is completed. The stack after it is never empty: it
is the number that the token put there above what it left in place. -/
structure Step (α : Type) where
  token : Token
  role : Role
  top : α
  below : List α

/-- The stack after a step, its top first. -/
def Step.stack {α : Type} (step : Step α) : List α :=
  step.top :: step.below

/-- The steps observed and the records written during an evaluation, and its
final stack or first fault. -/
structure Run (α : Type) where
  steps : List (Step α)
  records : List Record
  outcome : Except EvalError (List α)

namespace Run

variable {α : Type}

/-- A run with one more token in front. -/
def cons (record : Record) (step : Step α) (run : Run α) : Run α :=
  ⟨step :: run.steps, record :: run.records, run.outcome⟩

/-- A run continued from its final stack, unless it ended with a fault. -/
def andThen (run : Run α) (next : List α → Run α) : Run α :=
  match run.outcome with
  | .error error => ⟨run.steps, run.records, .error error⟩
  | .ok stack =>
      ⟨run.steps ++ (next stack).steps, run.records ++ (next stack).records, (next stack).outcome⟩

/-- The value of a run: its final stack must hold exactly one number. -/
def value [Number α] (run : Run α) : Except EvalError α :=
  match run.outcome with
  | .error error => .error error
  | .ok [value] => .ok value
  | .ok stack => .error (.leftoverStack (Number.renderStack stack))

end Run

namespace Calculator

variable {α : Type} [Number α]

/-- The effect of a token that is not a literal: its record and its step. -/
def applyName (calculator : Calculator α) (stack : List α) (token : Token) :
    Except EvalError (Record × Step α) :=
  match calculator.find? token.text with
  | none => .error (.unknownElement token)
  | some operation =>
      let topmost := stack.take operation.arity
      if topmost.length < operation.arity then .error (.missingArguments token)
      else
        match operation.apply topmost.reverse with
        | .error failure => .error (.arithmetic failure)
        | .ok value =>
            .ok (.applied token operation.arity (Number.render value),
              ⟨token, .function operation.arity, value, stack.drop operation.arity⟩)

/-- The effect of one token on a stack given with its top first. -/
def effect (calculator : Calculator α) (stack : List α) (token : Token) :
    Except EvalError (Record × Step α) :=
  match calculator.readLiteral? token.text with
  | some value =>
      .ok (.pushed token (Number.render value), ⟨token, .literal, value, stack⟩)
  | none => calculator.applyName stack token

/-- Process tokens from a given stack, up to the first fault. -/
def runFrom (calculator : Calculator α) (stack : List α) : List Token → Run α
  | [] => ⟨[], [], .ok stack⟩
  | token :: rest =>
      match calculator.effect stack token with
      | .error error => ⟨[], [], .error error⟩
      | .ok (record, step) => (calculator.runFrom step.stack rest).cons record step

/-- Tokens can be processed in two parts, the second from where the first ended. -/
theorem runFrom_append (calculator : Calculator α) (stack : List α)
    (first second : List Token) :
    calculator.runFrom stack (first ++ second) =
      (calculator.runFrom stack first).andThen fun reached =>
        calculator.runFrom reached second := by
  induction first generalizing stack with
  | nil => simp [runFrom, Run.andThen]
  | cons token rest ih =>
      simp only [List.cons_append, runFrom]
      split
      · rfl
      · rw [ih]
        simp only [Run.andThen, Run.cons]
        split <;> simp_all

/-- The run of an equation: its tokens are processed from the empty stack. -/
def run (calculator : Calculator α) (equation : String) : Run α :=
  match Token.cut equation with
  | .error error => ⟨[], [], .error error⟩
  | .ok tokens => calculator.runFrom [] tokens

/-- The value of an equation. -/
def evaluate (calculator : Calculator α) (equation : String) : Except EvalError α :=
  (calculator.run equation).value

end Calculator

end PostfixCalc
