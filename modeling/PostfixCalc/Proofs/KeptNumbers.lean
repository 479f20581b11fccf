/-
# What evaluation keeps to

A property of numbers that every literal has, and that every known operation
passes on from its arguments to its result, is a property of every number that
an evaluation puts on its stack. One token is settled by the operation that it
means, and a run by induction on its tokens.

Main statements: a calculator that keeps to a property does so through any
registrations of operations that pass it on, and each of its runs stays with
numbers that have the property. Operations are asked for nothing on a number of
arguments that they are never given.
-/

import PostfixCalc.Proofs.TraceTruth

namespace PostfixCalc

namespace Operation

variable {α : Type}

/-- The operation yields numbers with the property when it is given such numbers. -/
def Keeps (good : α → Prop) (operation : Operation α) : Prop :=
  ∀ arguments, arguments.length = operation.arity → (∀ x ∈ arguments, good x) →
    ∀ value, operation.apply arguments = .ok value → good value

variable {good : α → Prop}

theorem Keeps.constant {value : α} (good_value : good value) : (constant value).Keeps good := by
  intro _ _ _ other yields
  cases yields
  exact good_value

theorem Keeps.unary {rule : α → Except Failure α}
    (keeps : ∀ x, good x → ∀ value, rule x = .ok value → good value) :
    (Operation.unary rule).Keeps good := by
  intro arguments full each value yields
  obtain ⟨x, rfl⟩ := List.length_eq_one_iff.mp full
  exact keeps x (each x List.mem_cons_self) value yields

theorem Keeps.binary {rule : α → α → Except Failure α}
    (keeps : ∀ x y, good x → good y → ∀ value, rule x y = .ok value → good value) :
    (Operation.binary rule).Keeps good := by
  intro arguments full each value yields
  obtain ⟨x, y, rfl⟩ := List.length_eq_two.mp full
  exact keeps x y (each x (by simp)) (each y (by simp)) value yields

end Operation

namespace Calculator

variable {α : Type} [Number α]

/-- What is known under a name is one of the entries. -/
theorem mem_of_find?_ofEntries {settings : Number.Settings α}
    {entries : List (String × Operation α)} {name : String} {operation : Operation α}
    (known : (ofEntries settings entries).find? name = some operation) :
    (name, operation) ∈ entries := by
  rw [find?_ofEntries] at known
  obtain ⟨before, after, reversed, _⟩ := List.lookup_eq_some_iff.mp known
  apply List.mem_reverse.mp
  rw [reversed]
  exact List.mem_append_right _ List.mem_cons_self

/-- The calculator has no other source of numbers than literals with the
property and operations that pass it on. -/
structure Keeps (good : α → Prop) (calculator : Calculator α) : Prop where
  literal : ∀ (text : String) (value : α), calculator.readLiteral? text = some value → good value
  operation : ∀ (name : String) (operation : Operation α),
    calculator.find? name = some operation → operation.Keeps good

namespace Keeps

variable {good : α → Prop} {calculator : Calculator α}

/-! ## Calculators that keep to a property -/

theorem ofSettings {settings : Number.Settings α}
    (literal : ∀ (text : String) (value : α),
      Number.readLiteral? settings text = some value → good value)
    (each : ∀ entry ∈ initialOperations settings, entry.2.Keeps good) :
    (Calculator.ofSettings settings).Keeps good :=
  ⟨literal, fun _ _ known => each _ (mem_of_find?_ofEntries known)⟩

theorem register (keeps : calculator.Keeps good) {name : String} {operation : Operation α}
    (passes_on : operation.Keeps good) : (calculator.register name operation).Keeps good := by
  refine ⟨keeps.literal, fun other found known => ?_⟩
  rw [find?_register] at known
  split at known
  · cases known
    exact passes_on
  · exact keeps.operation other found known

/-- Any number of registrations, each in place of what its name meant before. -/
theorem foldl_register {entries : List (String × Operation α)} (keeps : calculator.Keeps good)
    (each : ∀ entry ∈ entries, entry.2.Keeps good) :
    (entries.foldl (fun reached entry => reached.register entry.1 entry.2) calculator).Keeps
      good := by
  induction entries generalizing calculator with
  | nil => exact keeps
  | cons entry rest ih =>
      have first : (calculator.register entry.1 entry.2).Keeps good :=
        keeps.register (each entry List.mem_cons_self)
      exact ih first fun other member => each other (List.mem_cons_of_mem _ member)

/-! ## Runs -/

/-- A literal is an operation without arguments. -/
theorem meaning (keeps : calculator.Keeps good) {text : String} {operation : Operation α}
    (known : calculator.meaning? text = some operation) : operation.Keeps good := by
  cases reads : calculator.readLiteral? text with
  | some value =>
      rw [calculator.meaning?_of_literal reads] at known
      cases known
      exact .constant (keeps.literal text value reads)
  | none =>
      rw [calculator.meaning?_of_refused reads] at known
      exact keeps.operation text operation known

/-- One token pushes a number with the property, and those below it stay. -/
theorem step (keeps : calculator.Keeps good) {stack : List α} {token : Token} {step : Step α}
    (good_stack : ∀ x ∈ stack, good x) (succeeds : calculator.step stack token = .ok step) :
    ∀ x ∈ step.stack, good x := by
  obtain ⟨operation, value, known, enough, yields, rfl⟩ := calculator.step_eq_ok_iff.mp succeeds
  have full : (stack.take operation.arity).reverse.length = operation.arity := by
    rw [List.length_reverse, List.length_take, Nat.min_eq_left enough]
  have good_arguments : ∀ x ∈ (stack.take operation.arity).reverse, good x :=
    fun x member => good_stack x (List.mem_of_mem_take (List.mem_reverse.mp member))
  intro x member
  rcases List.mem_cons.mp member with rfl | below
  · exact keeps.meaning known _ full good_arguments _ yields
  · exact good_stack x (List.mem_of_mem_drop below)

/-- The stack after each completed step of a run, also of one that ends with a fault. -/
theorem steps_runFrom (keeps : calculator.Keeps good) {stack : List α} {tokens : List Token}
    (good_stack : ∀ x ∈ stack, good x) :
    ∀ step ∈ (calculator.runFrom stack tokens).steps, ∀ x ∈ step.stack, good x := by
  induction tokens generalizing stack with
  | nil => exact nofun
  | cons token rest ih =>
      intro step taken
      cases effect : calculator.step stack token with
      | error error =>
          rw [runFrom_cons, effect] at taken
          cases taken
      | ok first =>
          have good_first := keeps.step good_stack effect
          rw [runFrom_cons, effect] at taken
          rcases List.mem_cons.mp taken with rfl | later
          · exact good_first
          · exact ih good_first step later

theorem steps_run (keeps : calculator.Keeps good) (equation : String) :
    ∀ step ∈ (calculator.run equation).steps, ∀ x ∈ step.stack, good x := by
  rw [calculator.steps_run]
  exact keeps.steps_runFrom (List.forall_mem_nil _)

/-- The final stack is the one after the last step. -/
theorem reach (keeps : calculator.Keeps good) {tokens : List Token} {reached : List α}
    (reaches : calculator.reach [] tokens = .ok reached) : ∀ x ∈ reached, good x := by
  by_cases none : tokens = []
  · rw [none] at reaches
    cases reaches
    exact nofun
  · obtain ⟨last, is_last, rfl⟩ := calculator.getLast?_steps none reaches
    exact keeps.steps_runFrom (List.forall_mem_nil _) last (List.mem_of_getLast? is_last)

theorem evaluate (keeps : calculator.Keeps good) {equation : String} {value : α}
    (evaluated : calculator.evaluate equation = .ok value) : good value :=
  keeps.reach (calculator.evaluate_eq_ok_iff.mp evaluated) value List.mem_cons_self

/-- Each entry of a trace writes a number with the property. -/
theorem entry_of_explain (keeps : calculator.Keeps good) {equation : String} {value : α}
    {steps : List TraceStep} (explained : calculator.explain equation = .ok (value, steps)) :
    ∀ shown ∈ steps, ∀ entry ∈ shown.entries, ∃ x, good x ∧ Number.render x = entry := by
  obtain ⟨_, rfl⟩ := calculator.explain_eq_ok_iff.mp explained
  intro shown member entry written
  obtain ⟨step, taken, rfl⟩ := List.mem_map.mp member
  obtain ⟨x, inside, rfl⟩ := List.mem_map.mp written
  exact ⟨x, keeps.steps_run equation step taken x (List.mem_reverse.mp inside), rfl⟩

/-- So does each entry of a stack that is left over. -/
theorem entry_of_leftoverStack (keeps : calculator.Keeps good) {equation : String}
    {entries : List String}
    (left : calculator.evaluate equation = .error (.leftoverStack entries)) :
    ∀ entry ∈ entries, ∃ x, good x ∧ Number.render x = entry := by
  obtain ⟨stack, reached, _, rfl⟩ := calculator.evaluate_eq_leftoverStack_iff.mp left
  intro entry written
  obtain ⟨x, inside, rfl⟩ := List.mem_map.mp written
  exact ⟨x, keeps.reach reached x (List.mem_reverse.mp inside), rfl⟩

end Keeps

end Calculator

end PostfixCalc
