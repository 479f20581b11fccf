/-
# Images of runs

Two calculators, of one kind of number or of two, can do the same up to a map
from the numbers of the first to those of the second. What they have to agree
on is said for each word on its own: they read it alike, and what they know
under it acts alike. One step of the second is then the image of the step of
the first, and so, by induction on the tokens, is a run. Written forms have to
be kept, since a run records the numbers that it pushes as texts.

Failures of the first may be excused. A run of the first that ends with one
has no image here.
-/

import Mathlib.Data.List.Basic
import Mathlib.Data.Option.Basic
import PostfixCalc.Proofs.Reach
import PostfixCalc.Trace

namespace PostfixCalc

variable {α β : Type}

/-- The second operation takes as many numbers as the first and does to their
images what the first does to them, unless the first fails and is excused. -/
structure Operation.Mirrors (image : α → β) (excused : Failure → Prop)
    (first : Operation α) (second : Operation β) : Prop where
  arity_eq : second.arity = first.arity
  apply_map : ∀ arguments, arguments.length = first.arity →
    (∃ failure, excused failure ∧ first.apply arguments = .error failure) ∨
      second.apply (arguments.map image) = (first.apply arguments).map image

namespace Operation.Mirrors

variable {image : α → β} {excused : Failure → Prop}

theorem unary {rule : α → Except Failure α} {other : β → Except Failure β}
    (same : ∀ x, other (image x) = (rule x).map image) :
    (Operation.unary rule).Mirrors image excused (.unary other) := by
  refine ⟨rfl, fun arguments full => .inr ?_⟩
  obtain ⟨x, rfl⟩ := List.length_eq_one_iff.mp full
  exact same x

theorem binary {rule : α → α → Except Failure α} {other : β → β → Except Failure β}
    (same : ∀ x y, (∃ failure, excused failure ∧ rule x y = .error failure) ∨
      other (image x) (image y) = (rule x y).map image) :
    (Operation.binary rule).Mirrors image excused (.binary other) := by
  refine ⟨rfl, fun arguments full => ?_⟩
  obtain ⟨x, y, rfl⟩ := List.length_eq_two.mp full
  exact same x y

end Operation.Mirrors

/-- The same step on the images of numbers. -/
def Step.map (image : α → β) (step : Step α) : Step β :=
  ⟨step.token, step.role, image step.top, step.below.map image⟩

@[simp]
theorem Step.stack_map (image : α → β) (step : Step α) :
    (step.map image).stack = step.stack.map image :=
  rfl

namespace Run

/-- The same run on the images of numbers. What was recorded stays. -/
def map (image : α → β) (run : Run α) : Run β :=
  ⟨run.steps.map (Step.map image), run.records, run.outcome.map (List.map image)⟩

@[simp]
theorem map_id (run : Run α) : run.map id = run := by
  have same_step : Step.map (id : α → α) = id := by
    funext step
    simp [Step.map]
  rw [map, same_step, List.map_id, List.map_id_fun]
  cases run with
  | mk steps records outcome => cases outcome <;> rfl

variable [Number α] [Number β] {image : α → β}

/-- Written forms that are kept make the image of a run show the same stacks. -/
theorem renderStack_map (same_text : ∀ value, Number.render (image value) = Number.render value)
    (stack : List α) : Number.renderStack (stack.map image) = Number.renderStack stack := by
  simp [Number.renderStack, ← List.map_reverse, Function.comp_def, same_text]

theorem value_map (same_text : ∀ value, Number.render (image value) = Number.render value)
    (run : Run α) : (run.map image).value = run.value.map image := by
  unfold Run.value
  cases outcome : run.outcome with
  | error error => simp [map, outcome, Except.map]
  | ok stack =>
      match stack with
      | [] => simp [map, outcome, Except.map, Number.renderStack]
      | [value] => simp [map, outcome, Except.map]
      | first :: second :: rest =>
          have entries := renderStack_map same_text (first :: second :: rest)
          simp only [List.map_cons] at entries
          simp [map, outcome, Except.map, entries]

end Run

namespace Calculator

variable [Number α] [Number β]

/-- Two calculators agree on a word: the second reads the image of what the
first reads, and if there is nothing to read they know nothing under the word
or operations that act alike. -/
structure Mirrors (image : α → β) (excused : Failure → Prop) (first : Calculator α)
    (second : Calculator β) (text : String) : Prop where
  read : second.readLiteral? text = (first.readLiteral? text).map image
  find : first.readLiteral? text = none →
    Option.Rel (Operation.Mirrors image excused) (first.find? text) (second.find? text)

variable {image : α → β} {excused : Failure → Prop} {first : Calculator α} {second : Calculator β}

/-- Calculators that agree on a word give it no meaning or meanings that act alike. -/
theorem Mirrors.meaning {text : String} (agree : Mirrors image excused first second text) :
    (first.meaning? text = none ∧ second.meaning? text = none) ∨
      ∃ operation other, first.meaning? text = some operation ∧
        second.meaning? text = some other ∧ operation.Mirrors image excused other := by
  cases reads : first.readLiteral? text with
  | some value =>
      have reads_image : second.readLiteral? text = some (image value) := by
        rw [agree.read, reads, Option.map_some]
      rw [first.meaning?_of_literal reads, second.meaning?_of_literal reads_image]
      exact .inr ⟨_, _, rfl, rfl, rfl, fun _ _ => .inr rfl⟩
  | none =>
      have refused : second.readLiteral? text = none := by
        rw [agree.read, reads, Option.map_none]
      rw [first.meaning?_of_refused reads, second.meaning?_of_refused refused]
      have found := agree.find reads
      generalize first.find? text = known, second.find? text = known_too at found ⊢
      cases found with
      | none => exact .inl ⟨rfl, rfl⟩
      | some alike => exact .inr ⟨_, _, rfl, rfl, alike⟩

theorem Mirrors.roleOf_eq {text : String} (agree : Mirrors image excused first second text)
    {operation : Operation α} {other : Operation β}
    (alike : operation.Mirrors image excused other) :
    second.roleOf text other = first.roleOf text operation := by
  unfold roleOf
  rw [agree.read, alike.arity_eq]
  cases first.readLiteral? text <;> rfl

/-- What a word on which calculators agree does to the image of a stack. -/
theorem step_map {token : Token} (agree : Mirrors image excused first second token.text)
    (stack : List α) :
    (∃ failure, excused failure ∧ first.step stack token = .error (.arithmetic failure)) ∨
      second.step (stack.map image) token = (first.step stack token).map (Step.map image) := by
  rcases agree.meaning with ⟨unknown, unknown_too⟩ | ⟨operation, other, known, known_too, alike⟩
  · rw [first.step_of_unknown unknown, second.step_of_unknown unknown_too]
    exact .inr rfl
  have same_arity := alike.arity_eq
  by_cases enough : operation.arity ≤ stack.length
  · have enough_too : other.arity ≤ (stack.map image).length := by
      rw [same_arity, List.length_map]
      exact enough
    have full : (stack.take operation.arity).reverse.length = operation.arity := by
      rw [List.length_reverse, List.length_take_of_le enough]
    rw [first.step_of_enough known enough, second.step_of_enough known_too enough_too,
      agree.roleOf_eq alike, same_arity, ← List.map_take, ← List.map_drop, ← List.map_reverse]
    rcases alike.apply_map _ full with ⟨failure, is_excused, fails⟩ | same
    · exact .inl ⟨failure, is_excused, by rw [fails]⟩
    · rw [same]
      cases operation.apply (stack.take operation.arity).reverse with
      | error failure => exact .inr rfl
      | ok value => exact .inr rfl
  · have missing : stack.length < operation.arity := Nat.lt_of_not_le enough
    have missing_too : (stack.map image).length < other.arity := by
      rw [same_arity, List.length_map]
      exact missing
    rw [first.step_of_missing known missing, second.step_of_missing known_too missing_too]
    exact .inr rfl

section Runs

variable (same_text : ∀ value, Number.render (image value) = Number.render value)

include same_text

/-- The image of a step is recorded in the same words. -/
theorem record_map (step : Step α) : (step.map image).record = step.record := by
  simp only [Step.record, Step.map, same_text]

/-- Tokens on which calculators agree make the second run the image of the
first, from the image of any stack. -/
theorem runFrom_map {tokens : List Token}
    (agree : ∀ token ∈ tokens, Mirrors image excused first second token.text) (stack : List α) :
    (∃ failure, excused failure ∧ first.reach stack tokens = .error (.arithmetic failure)) ∨
      second.runFrom (stack.map image) tokens = (first.runFrom stack tokens).map image := by
  induction tokens generalizing stack with
  | nil => exact .inr rfl
  | cons token rest ih =>
      rcases step_map (agree token List.mem_cons_self) stack with
        ⟨failure, is_excused, fails⟩ | same
      · exact .inl ⟨failure, is_excused, first.reach_cons_of_error fails rest⟩
      · rw [second.runFrom_cons, first.runFrom_cons, same]
        cases effect : first.step stack token with
        | error error => exact .inr rfl
        | ok step =>
            rcases ih (fun other member => agree other (List.mem_cons_of_mem _ member)) step.stack
              with ⟨failure, is_excused, fails⟩ | continued
            · refine .inl ⟨failure, is_excused, ?_⟩
              rw [first.reach_cons_of_ok effect, fails]
            · refine .inr ?_
              simp only [Except.map, Step.stack_map, record_map same_text, continued]
              rfl

/-- The run of an equation is the image of its run by a calculator that agrees
on all its words. -/
theorem run_map {equation : String}
    (agree : ∀ word ∈ Text.words equation, Mirrors image excused first second word) :
    (∃ failure, excused failure ∧ first.evaluate equation = .error (.arithmetic failure)) ∨
      second.run equation = (first.run equation).map image := by
  by_cases blank : Token.ofEquation equation = []
  · refine .inr ?_
    rw [second.run_of_no_token blank, first.run_of_no_token blank]
    rfl
  · have agree_token : ∀ token ∈ Token.ofEquation equation,
        Mirrors image excused first second token.text := by
      intro token member
      apply agree
      rw [← Token.map_text_numbered 1 (Text.words equation)]
      exact List.mem_map_of_mem member
    rcases runFrom_map same_text agree_token [] with ⟨failure, is_excused, fails⟩ | same
    · exact .inl ⟨failure, is_excused, first.evaluate_of_reach_error fails⟩
    · refine .inr ?_
      rw [second.run_of_token blank, first.run_of_token blank]
      exact same

end Runs

end Calculator

end PostfixCalc
