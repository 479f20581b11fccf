/-
# Expressions

The trees that equations write in postfix order. A leaf is a literal; a node
is a name that is not one, with as many arguments as its operation takes. The
number of arguments is part of the type, so every expression is well formed.

Main statement: words write at most one sequence of expressions, whatever the
arities of the names.
-/

import Mathlib.Data.List.Basic
import Mathlib.Data.List.OfFn
import PostfixCalc.Proofs.Reach

namespace PostfixCalc

/-- An expression over the literals and the names of a calculator. -/
inductive Expression {α : Type} [Number α] (calculator : Calculator α)
  /-- A text that is a literal, even if it is a known name as well. -/
  | literal (text : String) (value : α) (reads : calculator.readLiteral? text = some value)
  /-- A name on its arguments, the first of them first. -/
  | application (name : String) (operation : Operation α)
      (refused : calculator.readLiteral? name = none)
      (known : calculator.find? name = some operation)
      (operands : Fin operation.arity → Expression calculator)

namespace Expression

variable {α : Type} [Number α] {calculator : Calculator α}

/-- The postfix writing: the arguments from left to right, then the name. -/
def words : Expression calculator → List String
  | .literal text _ _ => [text]
  | .application name _ _ _ operands => (List.ofFn fun i => (operands i).words).flatten ++ [name]

/-- The value: that of the literal, or the result of the operation on the
values of the arguments. The first failure from the left is the failure of
the whole. -/
def value : Expression calculator → Except Failure α
  | .literal _ value _ => .ok value
  | .application _ operation _ _ operands => do
      let values ← (List.ofFn fun i => (operands i).value).mapM id
      operation.apply values

/-- The literal or the name at the root. -/
def head : Expression calculator → String
  | .literal text _ _ => text
  | .application name _ _ _ _ => name

/-- The arguments of the root. -/
def arguments : Expression calculator → List (Expression calculator)
  | .literal _ _ _ => []
  | .application _ _ _ _ operands => List.ofFn operands

/-- What holds of an expression whenever it holds of its arguments holds of
every expression. -/
theorem induction_on_arguments {motive : Expression calculator → Prop}
    (step : ∀ expression, (∀ argument ∈ expression.arguments, motive argument) →
      motive expression)
    (expression : Expression calculator) : motive expression := by
  induction expression with
  | literal text value reads =>
      apply step
      intro argument member
      cases member
  | application name operation refused known operands ih =>
      apply step
      intro argument member
      obtain ⟨i, rfl⟩ := List.mem_ofFn.mp member
      exact ih i

/-- The writing of an expression ends with its root. -/
theorem words_eq (expression : Expression calculator) :
    expression.words = expression.arguments.flatMap words ++ [expression.head] := by
  cases expression with
  | literal text value reads => rfl
  | application name operation refused known operands =>
      simp [words, arguments, head, List.flatMap, List.map_ofFn, Function.comp_def]

theorem words_ne_nil (expression : Expression calculator) : expression.words ≠ [] := by
  rw [words_eq]
  simp

/-- The root stands for an operation on the arguments, and decides the value
from theirs. -/
theorem exists_meaning (expression : Expression calculator) :
    ∃ operation, calculator.meaning? expression.head = some operation ∧
      expression.arguments.length = operation.arity ∧
      expression.value = (expression.arguments.map value).mapM id >>= operation.apply := by
  cases expression with
  | literal text value reads =>
      exact ⟨.constant value, calculator.meaning?_of_literal reads, rfl, rfl⟩
  | application name operation refused known operands =>
      refine ⟨operation, ?_, ?_, ?_⟩
      · exact (calculator.meaning?_of_refused refused).trans known
      · simp [arguments]
      · simp only [arguments, List.map_ofFn, Function.comp_def, value]

/-- A text with a meaning is the root of an expression on any arguments of the
right number. -/
theorem exists_expression {text : String} {operation : Operation α}
    (known : calculator.meaning? text = some operation)
    (operands : List (Expression calculator)) (count : operands.length = operation.arity) :
    ∃ expression : Expression calculator,
      expression.head = text ∧ expression.arguments = operands := by
  cases reads : calculator.readLiteral? text with
  | some value =>
      rw [calculator.meaning?_of_literal reads] at known
      cases known
      exact ⟨.literal text value reads, rfl, (List.eq_nil_of_length_eq_zero count).symm⟩
  | none =>
      rw [calculator.meaning?_of_refused reads] at known
      refine ⟨.application text operation reads known fun i => operands.get (i.cast count.symm),
        rfl, ?_⟩
      apply List.ext_getElem
      · simp [arguments, count]
      · intro i _ _
        simp [arguments]

/-- An expression is decided by its root and its arguments. -/
theorem eq_of_head_eq {first second : Expression calculator}
    (same_head : first.head = second.head) (same_arguments : first.arguments = second.arguments) :
    first = second := by
  cases first with
  | literal text value reads =>
      cases second with
      | literal text' value' reads' =>
          cases same_head
          cases reads.symm.trans reads'
          rfl
      | application name operation refused known operands =>
          cases same_head
          cases reads.symm.trans refused
  | application name operation refused known operands =>
      cases second with
      | literal text value reads =>
          cases same_head
          cases reads.symm.trans refused
      | application name' operation' refused' known' operands' =>
          cases same_head
          cases known.symm.trans known'
          cases List.ofFn_injective same_arguments
          rfl

/-- Equal roots have equally many arguments. -/
theorem length_arguments_eq {first second : Expression calculator}
    (same_head : first.head = second.head) :
    first.arguments.length = second.arguments.length := by
  obtain ⟨_, known, count, _⟩ := first.exists_meaning
  obtain ⟨_, known', count', _⟩ := second.exists_meaning
  rw [same_head, known'] at known
  cases known
  rw [count, count']

theorem flatMap_words_eq_nil_iff {expressions : List (Expression calculator)} :
    expressions.flatMap words = [] ↔ expressions = [] := by
  cases expressions with
  | nil => simp
  | cons expression rest => simp [words_ne_nil]

/-- The last word is the root of the last expression; before it stands the
writing of what is left when the root is removed. -/
theorem flatMap_words_append_singleton (expressions : List (Expression calculator))
    (last : Expression calculator) :
    (expressions ++ [last]).flatMap words =
      (expressions ++ last.arguments).flatMap words ++ [last.head] := by
  simp [words_eq last]

/-- Words write at most one sequence of expressions. -/
theorem eq_of_flatMap_words_eq {first second : List (Expression calculator)}
    (same : first.flatMap words = second.flatMap words) : first = second := by
  -- On the number of words: a root removed from both sides is one word less.
  induction count : (first.flatMap words).length using Nat.strong_induction_on
    generalizing first second with
  | _ n ih =>
      rcases first.eq_nil_or_concat' with rfl | ⟨earlier, last, rfl⟩
      · exact (flatMap_words_eq_nil_iff.mp same.symm).symm
      rcases second.eq_nil_or_concat' with rfl | ⟨earlier', last', rfl⟩
      · exact flatMap_words_eq_nil_iff.mp same
      rw [flatMap_words_append_singleton, flatMap_words_append_singleton] at same
      obtain ⟨same_rest, same_head⟩ := List.append_inj' same rfl
      have same_head : last.head = last'.head := List.head_eq_of_cons_eq same_head
      rw [flatMap_words_append_singleton, List.length_append, List.length_singleton] at count
      have uncovered := ih _ (by omega) same_rest rfl
      obtain ⟨same_earlier, same_arguments⟩ :=
        List.append_inj' uncovered (length_arguments_eq same_head)
      rw [same_earlier, eq_of_head_eq same_head same_arguments]

end Expression

end PostfixCalc
