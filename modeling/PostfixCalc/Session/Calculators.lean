/-
# Sessions on calculators

A session holds a growing list of calculators, each known by its index. A
command addresses one of them; only registrations change it, and copies and
new calculators are appended. Every answer tells how many names the addressed
calculator knows afterwards, or the new one when a standard one is made.
-/

import PostfixCalc.Session.Body
import PostfixCalc.Session.Requests
import PostfixCalc.Trace

namespace PostfixCalc.Session

/-- What can be asked of a calculator in a session. -/
inductive Command (α : Type)
  | register (name : String) (arity : Nat) (body : Body α)
  /-- Register an operation that is already made. -/
  | registerOperation (name : String) (operation : Operation α)
  /-- Register under a name the operation found now under another. -/
  | alias (name target : String)
  | copy
  /-- Append a calculator with the default settings. -/
  | makeStandard
  | evaluate (equation : String)
  | explain (equation : String)
  | read (text : String)
  | find (name : String)
  | listNames
  | describe
  | describeSettings

/-- What a command answers. -/
inductive Reply (α : Type)
  | registered
  | aliased (found : Bool)
  | appended (index : Nat)
  | value (result : Except EvalError α)
  | explanation (result : Except EvalError (α × List TraceStep))
  | literal (result : Except InvalidLiteral α)
  | arity (result : Option Nat)
  | names (names : List String)
  | description (text : String)

/-- A reply and the size reported with it. -/
structure Answer (α : Type) where
  reply : Reply α
  size : Nat

variable {α : Type} [Number α]

/-- Carry out a command on the given calculator of a list, at its index. -/
def perform (calculators : List (Calculator α)) (index : Nat) (calculator : Calculator α) :
    Command α → List (Calculator α) × Answer α
  | .register name arity body =>
      let changed := calculator.register name (body.operation calculator arity)
      (calculators.set index changed, ⟨.registered, changed.size⟩)
  | .registerOperation name operation =>
      let changed := calculator.register name operation
      (calculators.set index changed, ⟨.registered, changed.size⟩)
  | .alias name target =>
      match calculator.find? target with
      | none => (calculators, ⟨.aliased false, calculator.size⟩)
      | some operation =>
          let changed := calculator.register name operation
          (calculators.set index changed, ⟨.aliased true, changed.size⟩)
  | .copy => (calculators ++ [calculator], ⟨.appended calculators.length, calculator.size⟩)
  | .makeStandard =>
      let made : Calculator α := .standard
      (calculators ++ [made], ⟨.appended calculators.length, made.size⟩)
  | .evaluate equation =>
      (calculators, ⟨.value (calculator.evaluate equation), calculator.size⟩)
  | .explain equation =>
      (calculators, ⟨.explanation (calculator.explain equation), calculator.size⟩)
  | .read text =>
      (calculators, ⟨.literal (Number.read text calculator.settings), calculator.size⟩)
  | .find name =>
      (calculators, ⟨.arity ((calculator.find? name).map Operation.arity), calculator.size⟩)
  | .listNames => (calculators, ⟨.names calculator.names, calculator.size⟩)
  | .describe => (calculators, ⟨.description calculator.describe, calculator.size⟩)
  | .describeSettings =>
      (calculators,
        ⟨.description (Number.describeSettings calculator.settings), calculator.size⟩)

/-- The answers to commands in order. -/
def answers (calculators : List (Calculator α)) (commands : List (Nat × Command α)) :
    List (Answer α) :=
  Performer.answers perform calculators commands

/-- The calculators at the end of the answers. -/
def after (calculators : List (Calculator α)) (commands : List (Nat × Command α)) :
    List (Calculator α) :=
  Performer.after perform calculators commands

end PostfixCalc.Session
