/-
# Operations

An operation is a number of arguments and a rule that maps that many numbers,
in the order of the equation, to a number or to a failure. Operators,
functions and constants are all operations: a constant takes no argument.
-/

import PostfixCalc.Decimal.Digits
import PostfixCalc.Failure

namespace PostfixCalc

/-- A rule on a fixed number of arguments, the deepest on the stack coming first. -/
structure Operation (α : Type) where
  arity : Nat
  apply : List α → Except Failure α

namespace Operation

variable {α : Type}

/-- The operation without arguments that yields the given number. -/
def constant (value : α) : Operation α where
  arity := 0
  apply _ := .ok value

/-- An operation on one number. -/
def unary (rule : α → Except Failure α) : Operation α where
  arity := 1
  apply
    | [x] => rule x
    | _ => .error .argumentCount

/-- An operation on two numbers. -/
def binary (rule : α → α → Except Failure α) : Operation α where
  arity := 2
  apply
    | [x, y] => rule x y
    | _ => .error .argumentCount

/-- The structured description of an operation, which shows its arity alone. -/
def describe (operation : Operation α) : String :=
  "Fonction \x7b arite: " ++ Decimal.natText operation.arity ++ ", .. \x7d"

end Operation

end PostfixCalc
