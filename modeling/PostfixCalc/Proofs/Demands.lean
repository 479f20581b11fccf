/-
# Demands

Some steps of a computation demand something of what they are given: that a
divisor is not zero, that a stack is long enough for what is split off it, that
an argument is there. Functions that answer in every case hide such demands. A
checked computation makes them visible: it breaks off at the first demand that
is not met.

Main statements: an operation on one or two numbers meets its own demands when
it is called with as many arguments as its arity, if its rule does. A checked
operation that agrees with a plain one therefore never breaks off.

A denominator of a rational is never zero by its type, so nothing is demanded
of the numbers that sums and products are formed of.
-/

import Mathlib.Data.List.Basic
import PostfixCalc.Operation

namespace PostfixCalc

/-- A demand that is not met. -/
inductive Breach
  /-- A divisor, a denominator or a number to invert is zero. -/
  | zeroDivisor
  /-- A root is taken of a negative integer. -/
  | negativeRadicand
  /-- A text is cut within a character. -/
  | cutCharacter
  /-- More numbers are split off a stack than it holds. -/
  | shortStack
  /-- An operation is called with another number of arguments than its arity. -/
  | argumentCount
  /-- An argument is read that was not given. -/
  | missingArgument
  deriving DecidableEq, Repr

/-- A computation that breaks off at the first demand that is not met. -/
abbrev Checked (α : Type) : Type :=
  Except Breach α

namespace Checked

variable {α β : Type}

@[simp]
theorem ok_bind (value : α) (next : α → Checked β) : (Except.ok value >>= next) = next value :=
  rfl

@[simp]
theorem pure_eq_ok (value : α) : (pure value : Checked α) = .ok value :=
  rfl

/-- The result, if the demand is met. -/
def demand (breach : Breach) (met : Prop) [Decidable met] (result : α) : Checked α :=
  if met then .ok result else .error breach

theorem demand_of_met {breach : Breach} {met : Prop} [Decidable met] (holds : met) (result : α) :
    demand breach met result = .ok result :=
  if_pos holds

/-- The result of a division by the divisor, which must not be zero. -/
def divisionBy [Zero β] [DecidableEq β] (divisor : β) (result : α) : Checked α :=
  demand .zeroDivisor (divisor ≠ 0) result

theorem divisionBy_of_ne_zero [Zero β] [DecidableEq β] {divisor : β} (nonzero : divisor ≠ 0)
    (result : α) : divisionBy divisor result = .ok result :=
  demand_of_met nonzero result

/-- The argument at an index. -/
def argument (arguments : List α) (index : Nat) : Checked α :=
  match arguments[index]? with
  | some value => .ok value
  | none => .error .missingArgument

/-- The topmost numbers of a stack, as many as asked, and those below them. -/
def splitTop (stack : List α) (count : Nat) : Checked (List α × List α) :=
  demand .shortStack (count ≤ stack.length) (stack.take count, stack.drop count)

end Checked

/-- A rule with demands on a fixed number of arguments. Failures are results:
they are reported, and nothing breaks off. -/
structure CheckedOperation (α : Type) where
  arity : Nat
  apply : List α → Checked (Except Failure α)

namespace CheckedOperation

variable {α : Type}

def constant (value : α) : CheckedOperation α where
  arity := 0
  apply _ := .ok (.ok value)

/-- An operation that reads one argument. -/
def unary (rule : α → Checked (Except Failure α)) : CheckedOperation α where
  arity := 1
  apply arguments := do
    rule (← Checked.argument arguments 0)

/-- An operation that reads two arguments. -/
def binary (rule : α → α → Checked (Except Failure α)) : CheckedOperation α where
  arity := 2
  apply arguments := do
    rule (← Checked.argument arguments 0) (← Checked.argument arguments 1)

/-- Apply an operation to as many arguments as its arity. -/
def call (operation : CheckedOperation α) (arguments : List α) : Checked (Except Failure α) := do
  Checked.demand .argumentCount (arguments.length = operation.arity) ()
  operation.apply arguments

/-- On as many arguments as the arity the checked operation never breaks off,
and does what the plain operation does. -/
structure Agrees (checked : CheckedOperation α) (plain : Operation α) : Prop where
  arity_eq : checked.arity = plain.arity
  apply_eq : ∀ arguments, arguments.length = plain.arity →
    checked.apply arguments = .ok (plain.apply arguments)

namespace Agrees

theorem call_eq {checked : CheckedOperation α} {plain : Operation α}
    (agrees : checked.Agrees plain) {arguments : List α}
    (full : arguments.length = plain.arity) :
    checked.call arguments = .ok (plain.apply arguments) := by
  rw [call, Checked.demand_of_met (full.trans agrees.arity_eq.symm), Checked.ok_bind,
    agrees.apply_eq arguments full]

theorem constant (value : α) :
    (CheckedOperation.constant value).Agrees (Operation.constant value) :=
  ⟨rfl, fun _ _ => rfl⟩

theorem unary {checked : α → Checked (Except Failure α)} {plain : α → Except Failure α}
    (rule_eq : ∀ x, checked x = .ok (plain x)) :
    (CheckedOperation.unary checked).Agrees (Operation.unary plain) := by
  refine ⟨rfl, fun arguments full => ?_⟩
  obtain ⟨x, rfl⟩ := List.length_eq_one_iff.mp full
  exact rule_eq x

theorem binary {checked : α → α → Checked (Except Failure α)} {plain : α → α → Except Failure α}
    (rule_eq : ∀ x y, checked x y = .ok (plain x y)) :
    (CheckedOperation.binary checked).Agrees (Operation.binary plain) := by
  refine ⟨rfl, fun arguments full => ?_⟩
  obtain ⟨x, y, rfl⟩ := List.length_eq_two.mp full
  exact rule_eq x y

end Agrees

example : (binary fun x y : Int => .ok (.ok (x - y))).apply [3] = .error .missingArgument := by
  rfl

end CheckedOperation

end PostfixCalc
