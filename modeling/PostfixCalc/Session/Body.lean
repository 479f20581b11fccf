/-
# Bodies of registered functions

The ways in which a session can define a function: a fold of one of the four
arithmetic operations over the arguments, a fixed number, one of the
arguments, a fixed failure, or an equation over the arguments.

An equation is evaluated by the calculator as it was when the function was
registered, so a function never sees itself or a later registration. Its
arguments are the constants `$0`, `$1` and so on, handed over as numbers.
-/

import PostfixCalc.Evaluation

namespace PostfixCalc.Session

/-- What a registered function does with its arguments. -/
inductive Body (α : Type)
  | sum
  | difference
  | product
  | quotient
  | constant (value : α)
  | argument (index : Nat)
  | failure (message : String)
  | equation (text : String)

/-- Combine numbers from left to right; there must be one at least. -/
def foldArguments {α : Type} (combine : α → α → Except Failure α) :
    List α → Except Failure α
  | [] => .error .noArguments
  | first :: rest => rest.foldlM combine first

/-- The name of an argument in an equation. -/
def argumentName (index : Nat) : String :=
  "$" ++ Decimal.natText index

/-- Register numbers as the constants of consecutive arguments. -/
def bindArguments {α : Type} [Number α] (calculator : Calculator α) :
    Nat → List α → Calculator α
  | _, [] => calculator
  | index, value :: rest =>
      bindArguments (calculator.register (argumentName index) (.constant value)) (index + 1) rest

namespace Body

variable {α : Type} [Number α]

/-- The result of a body, equations being evaluated by the given calculator. -/
def apply (calculator : Calculator α) (arguments : List α) : Body α → Except Failure α
  | .sum => foldArguments Number.plus arguments
  | .difference => foldArguments Number.minus arguments
  | .product => foldArguments Number.times arguments
  | .quotient => foldArguments Number.dividedBy arguments
  | .constant value => .ok value
  | .argument index =>
      match arguments[index]? with
      | some value => .ok value
      | none => .error .argumentCount
  | .failure message => .error (.reported message)
  | .equation text =>
      match (bindArguments calculator 0 arguments).evaluate text with
      | .ok value => .ok value
      | .error error => .error (.reported error.message)

/-- The operation with this body and the given arity. -/
def operation (body : Body α) (calculator : Calculator α) (arity : Nat) : Operation α where
  arity := arity
  apply arguments := body.apply calculator arguments

end Body

end PostfixCalc.Session
