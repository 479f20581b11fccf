/-
# The names that an evaluation uses

Evaluation looks a word up only if it is not a literal, and then under the
word alone. Two calculators whose operations act alike under these words are
therefore not told apart by the equation, whatever else they know and however
they were set. Main statement: values, traces and errors agree, so other
registrations and names that are literals have no effect, and the precision of
rationals has one only through roots and pi.

That two operations act alike is asked of as many arguments as they take;
evaluation never applies them to any other number of them. Of the kind of
number it is asked that settings do not decide what is a literal. This holds of
every kind here, and a kind for which it failed would let its settings be seen
without any name.
-/

import PostfixCalc.Number.Floating
import PostfixCalc.Number.Rational
import PostfixCalc.Proofs.RunImage
import PostfixCalc.Proofs.TraceTruth

namespace PostfixCalc

variable {α : Type}

/-- A kind of number whose settings have no part in its literals. -/
class Number.FixedLiterals (α : Type) [Number α] : Prop where
  readLiteral?_eq (first second : Number.Settings α) (text : String) :
    (Number.readLiteral? first text : Option α) = Number.readLiteral? second text

instance : Number.FixedLiterals Int where
  readLiteral?_eq _ _ _ := rfl

instance : Number.FixedLiterals Rat where
  readLiteral?_eq _ _ _ := rfl

instance : Number.FixedLiterals Float where
  readLiteral?_eq _ _ _ := rfl

/-- Operations that take as many numbers and have the same result on every
choice of these. -/
structure Operation.ActsAs (first second : Operation α) : Prop where
  arity_eq : first.arity = second.arity
  apply_eq : ∀ arguments, arguments.length = first.arity →
    first.apply arguments = second.apply arguments

theorem Operation.ActsAs.refl (operation : Operation α) : operation.ActsAs operation :=
  ⟨rfl, fun _ _ => rfl⟩

theorem Operation.ActsAs.rel_refl (known : Option (Operation α)) :
    Option.Rel Operation.ActsAs known known := by
  cases known with
  | none => exact .none
  | some operation => exact .some (.refl operation)

/-- Operations that act alike are images of one another under the identity. -/
theorem Operation.ActsAs.mirrors {first second : Operation α} (alike : first.ActsAs second) :
    first.Mirrors id (fun _ => False) second := by
  refine ⟨alike.arity_eq.symm, fun arguments full => .inr ?_⟩
  rw [List.map_id, ← alike.apply_eq arguments full]
  cases first.apply arguments <;> rfl

namespace Calculator

variable [Number α]

/-- The operations under the words of an equation that are not literals decide
its run. -/
theorem run_congr [Number.FixedLiterals α] {first second : Calculator α} {equation : String}
    (alike : ∀ word ∈ Text.words equation, first.readLiteral? word = none →
      Option.Rel Operation.ActsAs (first.find? word) (second.find? word)) :
    first.run equation = second.run equation := by
  have agree : ∀ word ∈ Text.words equation, Mirrors id (fun _ => False) first second word := by
    intro word member
    have same_literal : second.readLiteral? word = first.readLiteral? word :=
      Number.FixedLiterals.readLiteral?_eq _ _ _
    refine ⟨by rw [same_literal, Option.map_id, id_eq], fun refused => ?_⟩
    have found := alike word member refused
    generalize first.find? word = known, second.find? word = known_too at found ⊢
    cases found with
    | none => exact .none
    | some same => exact .some same.mirrors
  have same_text (value : α) : Number.render (id value) = Number.render value := rfl
  rcases run_map same_text agree with ⟨_, impossible, _⟩ | same
  · cases impossible
  · rw [same, Run.map_id]

/-- Values, errors and traces are views of the run. -/
theorem views_eq_of_run_eq {first second : Calculator α} {equation : String}
    (same : first.run equation = second.run equation) :
    first.evaluate equation = second.evaluate equation ∧
      first.explain equation = second.explain equation := by
  simp only [evaluate, explain, same, and_self]

/-- A registration is noticed only by an equation that has its name as a word
other than a literal. -/
theorem run_register [Number.FixedLiterals α] (calculator : Calculator α)
    {name equation : String} (operation : Operation α)
    (unused : name ∈ Text.words equation → ∃ value, calculator.readLiteral? name = some value) :
    (calculator.register name operation).run equation = calculator.run equation := by
  apply run_congr
  intro word member refused
  have other : name ≠ word := by
    rintro rfl
    obtain ⟨value, reads⟩ := unused member
    cases reads.symm.trans refused
  rw [find?_register, if_neg other]
  exact Operation.ActsAs.rel_refl _

/-- A token that reads as a literal is never taken for a name. -/
theorem role_of_literal (calculator : Calculator α) {equation : String} {step : Step α}
    (taken : step ∈ (calculator.run equation).steps) {value : α}
    (reads : calculator.readLiteral? step.token.text = some value) :
    step.role = .literal ∧ step.top = value := by
  by_cases blank : Token.ofEquation equation = []
  · rw [calculator.run_of_no_token blank] at taken
    cases taken
  · rw [calculator.run_of_token blank] at taken
    obtain ⟨index, here⟩ := List.getElem?_of_mem taken
    obtain ⟨before, token, _, _, succeeds⟩ := calculator.step_of_getElem? here
    obtain ⟨operation, top, known, _, applied, rfl⟩ := calculator.step_eq_ok_iff.mp succeeds
    rw [calculator.meaning?_of_literal reads] at known
    cases known
    cases applied
    exact ⟨calculator.roleOf_eq_literal_iff.mpr ⟨_, reads⟩, rfl⟩

/-- The names of the operations that a precision decides. -/
def preciseNames : List String :=
  ["sqrt", "√", "pi", "π"]

/-- New calculators of two precisions know the same under any other name. -/
theorem find?_ofSettings_of_not_mem (first second : Precision) {name : String}
    (exact : name ∉ preciseNames) :
    (ofSettings first : Calculator Rat).find? name =
      (ofSettings second : Calculator Rat).find? name := by
  simp only [preciseNames, List.mem_cons, List.not_mem_nil, or_false, not_or, ← beq_eq_false_iff_ne]
    at exact
  obtain ⟨not_sqrt, not_root_sign, not_pi, not_pi_sign⟩ := exact
  rw [find?_ofSettings, find?_ofSettings]
  simp [initialOperations, Number.arithmetic, Number.functions, Rational.functions,
    List.lookup_cons, not_sqrt, not_root_sign, not_pi, not_pi_sign]

/-- The value, the trace and the error of an equation depend on a calculator
only through what it knows under the words that are not literals. So a
registration matters only under such a word, a word that is a literal is never
taken for a name, and the precision of a new calculator of rationals matters
only to roots and to pi. -/
theorem evaluate_depends_on_names [Number.FixedLiterals α] (equation : String) :
    (∀ first second : Calculator α,
      (∀ word ∈ Text.words equation, first.readLiteral? word = none →
        Option.Rel Operation.ActsAs (first.find? word) (second.find? word)) →
      first.evaluate equation = second.evaluate equation ∧
        first.explain equation = second.explain equation) ∧
    (∀ (calculator : Calculator α) (name : String) (operation : Operation α),
      (name ∈ Text.words equation → ∃ value, calculator.readLiteral? name = some value) →
      (calculator.register name operation).evaluate equation = calculator.evaluate equation ∧
        (calculator.register name operation).explain equation = calculator.explain equation) ∧
    (∀ calculator : Calculator α, ∀ step ∈ (calculator.run equation).steps, ∀ value : α,
      calculator.readLiteral? step.token.text = some value →
      step.role = .literal ∧ step.top = value) ∧
    (∀ first second : Precision, (∀ name ∈ preciseNames, name ∉ Text.words equation) →
      (ofSettings first : Calculator Rat).evaluate equation =
          (ofSettings second : Calculator Rat).evaluate equation ∧
        (ofSettings first : Calculator Rat).explain equation =
          (ofSettings second : Calculator Rat).explain equation) := by
  refine ⟨fun first second alike => ?_, fun calculator name operation unused => ?_,
    fun calculator step taken value reads => ?_, fun first second exact => ?_⟩
  · exact views_eq_of_run_eq (run_congr alike)
  · exact views_eq_of_run_eq (calculator.run_register operation unused)
  · exact calculator.role_of_literal taken reads
  · apply views_eq_of_run_eq
    apply run_congr
    intro word member _
    rw [find?_ofSettings_of_not_mem first second fun precise => exact word precise member]
    exact Operation.ActsAs.rel_refl _

/-- A literal keeps its value under a name of the same text, an operation that
is not used may be replaced, and a power of a fraction has no use of the
precision. -/
theorem names_without_effect :
    (∀ word ∈ Text.words "2 3 +",
      ((standard : Calculator Int).register "2" (.constant 99)).readLiteral? word = none →
      Option.Rel Operation.ActsAs
        (((standard : Calculator Int).register "2" (.constant 99)).find? word)
        ((standard : Calculator Int).find? word)) ∧
    ((standard : Calculator Int).register "2" (.constant 99)).evaluate "2 3 +" = .ok 5 ∧
    ("-" ∈ Text.words "2 3 +" →
      ∃ value, (standard : Calculator Int).readLiteral? "-" = some value) ∧
    ((standard : Calculator Int).register "-" (.constant 99)).evaluate "2 3 +" = .ok 5 ∧
    (∃ step ∈ ((standard : Calculator Int).run "2 3 +").steps,
      (standard : Calculator Int).readLiteral? step.token.text = some 3 ∧
        step.role = .literal) ∧
    (∀ name ∈ preciseNames, name ∉ Text.words "2/3 2 ^") ∧
    (ofSettings (Precision.ofNat 0) : Calculator Rat).evaluate "2/3 2 ^" = .ok (4 / 9) := by
  have alike : ∀ word ∈ Text.words "2 3 +",
      ((standard : Calculator Int).register "2" (.constant 99)).readLiteral? word = none →
      Option.Rel Operation.ActsAs
        (((standard : Calculator Int).register "2" (.constant 99)).find? word)
        ((standard : Calculator Int).find? word) := by
    intro word member refused
    have other : "2" ≠ word := by
      rintro rfl
      cases refused
    rw [find?_register, if_neg other]
    exact Operation.ActsAs.rel_refl _
  have unused : "-" ∈ Text.words "2 3 +" →
      ∃ value, (standard : Calculator Int).readLiteral? "-" = some value := by
    intro member
    exact absurd member (by decide)
  have exact_names : ∀ name ∈ preciseNames, name ∉ Text.words "2/3 2 ^" := by decide
  have sum : (standard : Calculator Int).evaluate "2 3 +" = .ok 5 := rfl
  have power : (ofSettings (Precision.ofNat 7) : Calculator Rat).evaluate "2/3 2 ^" =
      .ok (4 / 9) := by
    decide +kernel
  obtain ⟨by_words, by_registration, by_literal, _⟩ :=
    evaluate_depends_on_names (α := Int) "2 3 +"
  obtain ⟨_, _, _, by_precision⟩ := evaluate_depends_on_names (α := Int) "2/3 2 ^"
  have taken : ⟨⟨"3", 2⟩, .literal, 3, [2]⟩ ∈ ((standard : Calculator Int).run "2 3 +").steps :=
    .tail _ (.head _)
  have reads : (standard : Calculator Int).readLiteral? "3" = some 3 := rfl
  refine ⟨alike, ?_, unused, ?_, ⟨_, taken, reads, (by_literal standard _ taken 3 reads).1⟩,
    exact_names, ?_⟩
  · exact (by_words _ _ alike).1.trans sum
  · exact (by_registration standard "-" (.constant 99) unused).1.trans sum
  · exact (by_precision (.ofNat 0) (.ofNat 7) exact_names).1.trans power

end Calculator

end PostfixCalc
