/-
# The first fault

A text takes a fixed number of numbers off the stack, its need, and puts one
back. The height of the stack is therefore known before anything is computed,
and so are all faults but those of the operations themselves.

Main statement: the first rank at fault decides the error, whatever follows
it, and without a fault the height decides between a value and a leftover
stack.
-/

import Mathlib.Algebra.GroupWithZero.Nat
import Mathlib.Data.List.Induction
import PostfixCalc.Number.Integer
import PostfixCalc.Proofs.Reach
import PostfixCalc.Proofs.Words

namespace PostfixCalc

namespace Calculator

variable {α : Type} [Number α] (calculator : Calculator α)

/-- How many numbers a text takes off the stack: a literal takes none, and any
other known name as many as its operation. -/
def need? (text : String) : Option Nat :=
  match calculator.readLiteral? text with
  | some _ => some 0
  | none => (calculator.find? text).map Operation.arity

/-- The number of texts less the sum of their needs. -/
def height (texts : List String) : Int :=
  texts.length - (texts.map fun text => (calculator.need? text).getD 0).sum

/-- The ways in which the text at a rank, counted from one, is at fault, each
with its error. -/
inductive FaultAt (texts : List String) : Nat → EvalError → Prop
  /-- The text is neither a literal nor a known name. -/
  | unknown {index : Nat} {text : String} (here : texts[index]? = some text)
      (refused : calculator.need? text = none) :
      FaultAt texts (index + 1) (.unknownElement ⟨text, index + 1⟩)
  /-- The text needs more than the height before it. -/
  | missing {index need : Nat} {text : String} (here : texts[index]? = some text)
      (known : calculator.need? text = some need)
      (short : calculator.height (texts.take index) < need) :
      FaultAt texts (index + 1) (.missingArguments ⟨text, index + 1⟩)
  /-- The operation of the text fails on the topmost numbers. -/
  | failing {index : Nat} {text : String} {operation : Operation α} {stack : List α}
      {failure : Failure} (here : texts[index]? = some text)
      (refused : calculator.readLiteral? text = none)
      (known : calculator.find? text = some operation)
      (enough : operation.arity ≤ calculator.height (texts.take index))
      (reached : calculator.reach [] (Token.numbered 1 (texts.take index)) = .ok stack)
      (fails : operation.apply (stack.take operation.arity).reverse = .error failure) :
      FaultAt texts (index + 1) (.arithmetic failure)

/-- The need of a text is the arity of its meaning. -/
theorem need?_eq (text : String) :
    calculator.need? text = (calculator.meaning? text).map Operation.arity := by
  unfold need? meaning?
  cases calculator.readLiteral? text <;> rfl

theorem height_append_singleton (texts : List String) (text : String) :
    calculator.height (texts ++ [text]) =
      calculator.height texts + 1 - (calculator.need? text).getD 0 := by
  simp [height]
  omega

/-- One more text is one more token, processed on the stack reached before it. -/
theorem reach_numbered_append_singleton {texts : List String} {text : String}
    {stack : List α} :
    calculator.reach [] (Token.numbered 1 (texts ++ [text])) = .ok stack ↔
      ∃ before step, calculator.reach [] (Token.numbered 1 texts) = .ok before ∧
        calculator.step before ⟨text, texts.length + 1⟩ = .ok step ∧ step.stack = stack := by
  rw [Token.numbered_append, reach_append_eq_ok_iff, Nat.add_comm 1]
  simp only [Token.numbered, reach_cons_eq_ok_iff, reach_nil, Except.ok.injEq]
  constructor
  · intro parts
    obtain ⟨before, reached, step, succeeds, same⟩ := parts
    exact ⟨before, step, reached, succeeds, same⟩
  · intro parts
    obtain ⟨before, step, reached, succeeds, same⟩ := parts
    exact ⟨before, reached, step, succeeds, same⟩

/-- Tokens that lead to a stack leave as many numbers on it as their needs tell. -/
theorem length_of_reach {texts : List String} {stack : List α}
    (reaches : calculator.reach [] (Token.numbered 1 texts) = .ok stack) :
    (stack.length : Int) = calculator.height texts := by
  induction texts using List.reverseRecOn generalizing stack with
  | nil =>
      cases reaches
      rfl
  | append_singleton texts text ih =>
      obtain ⟨before, step, reached, succeeds, rfl⟩ :=
        calculator.reach_numbered_append_singleton.mp reaches
      obtain ⟨operation, value, known, enough, _, rfl⟩ :=
        calculator.step_eq_ok_iff.mp succeeds
      have earlier := ih reached
      rw [height_append_singleton, need?_eq, known, Option.map_some, Option.getD_some, ← earlier]
      simp only [Step.stack, List.length_cons, List.length_drop]
      omega

/-- On a stack that was reached, a text is at fault exactly if its token fails. -/
theorem faultAt_iff_step {texts : List String} {index : Nat} {text : String}
    (here : texts[index]? = some text) {stack : List α}
    (reached : calculator.reach [] (Token.numbered 1 (texts.take index)) = .ok stack)
    {error : EvalError} :
    calculator.FaultAt texts (index + 1) error ↔
      calculator.step stack ⟨text, index + 1⟩ = .error error := by
  have height_eq := calculator.length_of_reach reached
  rw [calculator.step_eq_error_iff]
  constructor
  · intro fault
    cases fault with
    | unknown here' refused =>
        cases here.symm.trans here'
        rw [need?_eq, Option.map_eq_none_iff] at refused
        exact .inl ⟨refused, rfl⟩
    | missing here' known short =>
        cases here.symm.trans here'
        rw [need?_eq, Option.map_eq_some_iff] at known
        obtain ⟨operation, meaning, rfl⟩ := known
        exact .inr ⟨operation, meaning, .inl ⟨by omega, rfl⟩⟩
    | failing here' refused known enough reached' fails =>
        cases here.symm.trans here'
        cases reached.symm.trans reached'
        exact .inr ⟨_, (calculator.meaning?_of_refused refused).trans known,
          .inr ⟨by omega, _, fails, rfl⟩⟩
  · intro cause
    rcases cause with
      ⟨unknown, rfl⟩ | ⟨operation, known, ⟨short, rfl⟩ | ⟨enough, failure, fails, rfl⟩⟩
    · exact .unknown here (by rw [need?_eq, unknown, Option.map_none])
    · exact .missing here (by rw [need?_eq, known, Option.map_some]) (by omega)
    · cases literal : calculator.readLiteral? text with
      | some value =>
          rw [calculator.meaning?_of_literal literal] at known
          cases known
          cases fails
      | none =>
          rw [calculator.meaning?_of_refused literal] at known
          exact .failing here literal known (by omega) reached fails

/-- As long as no rank is at fault the tokens lead to a stack. -/
theorem exists_reach_of_no_fault {texts : List String} {count : Nat}
    (bounded : count ≤ texts.length)
    (sound : ∀ index < count, ∀ error, ¬ calculator.FaultAt texts (index + 1) error) :
    ∃ stack, calculator.reach [] (Token.numbered 1 (texts.take count)) = .ok stack := by
  induction count with
  | zero => exact ⟨[], rfl⟩
  | succ index ih =>
      obtain ⟨before, reached⟩ := ih (by omega) fun earlier smaller => sound earlier (by omega)
      have here : texts[index]? = some texts[index] := List.getElem?_eq_getElem bounded
      cases effect : calculator.step before ⟨texts[index], index + 1⟩ with
      | error error =>
          have fault := (calculator.faultAt_iff_step here reached).mpr effect
          exact absurd fault (sound index (Nat.lt_succ_self _) error)
      | ok step =>
          refine ⟨step.stack, ?_⟩
          rw [List.take_succ_eq_append_getElem bounded]
          refine calculator.reach_numbered_append_singleton.mpr ⟨before, step, reached, ?_, rfl⟩
          rw [List.length_take_of_le (Nat.le_of_lt bounded)]
          exact effect

theorem FaultAt.exists_here {texts : List String} {rank : Nat} {error : EvalError}
    (fault : calculator.FaultAt texts rank error) :
    ∃ index text, rank = index + 1 ∧ texts[index]? = some text := by
  cases fault with
  | unknown here _ => exact ⟨_, _, rfl, here⟩
  | missing here _ _ => exact ⟨_, _, rfl, here⟩
  | failing here _ _ _ _ _ => exact ⟨_, _, rfl, here⟩

/-- Tokens that lead to a stack have no rank at fault among them. -/
theorem not_faultAt_of_reach {texts : List String} {stack : List α}
    (reached : calculator.reach [] (Token.numbered 1 texts) = .ok stack) (rank : Nat)
    (error : EvalError) : ¬ calculator.FaultAt texts rank error := by
  intro fault
  obtain ⟨index, text, rfl, here⟩ := fault.exists_here
  obtain ⟨inside, rfl⟩ := List.getElem?_eq_some_iff.mp here
  rw [← List.take_append_drop (index + 1) texts, Token.numbered_append,
    reach_append_eq_ok_iff] at reached
  obtain ⟨middle, front, _⟩ := reached
  rw [List.take_succ_eq_append_getElem inside] at front
  obtain ⟨before, step, earlier, succeeds, _⟩ :=
    calculator.reach_numbered_append_singleton.mp front
  rw [List.length_take_of_le (Nat.le_of_lt inside)] at succeeds
  have stops := (calculator.faultAt_iff_step here earlier).mp fault
  cases stops.symm.trans succeeds

/-- Tokens stop at the first rank at fault, whatever follows it. -/
theorem reach_of_first_fault {texts : List String} {rank : Nat} {error : EvalError}
    (fault : calculator.FaultAt texts rank error)
    (first : ∀ earlier < rank, ∀ other, ¬ calculator.FaultAt texts earlier other)
    (following : List String) :
    calculator.reach [] (Token.numbered 1 (texts.take rank ++ following)) = .error error := by
  obtain ⟨index, text, rfl, here⟩ := fault.exists_here
  obtain ⟨inside, rfl⟩ := List.getElem?_eq_some_iff.mp here
  obtain ⟨stack, reached⟩ := calculator.exists_reach_of_no_fault (Nat.le_of_lt inside)
    fun earlier smaller => first (earlier + 1) (Nat.succ_lt_succ smaller)
  have stops := (calculator.faultAt_iff_step here reached).mp fault
  rw [List.take_succ_eq_append_getElem inside, List.append_assoc, Token.numbered_append,
    calculator.reach_append_of_ok reached, List.length_take_of_le (Nat.le_of_lt inside),
    Nat.add_comm 1]
  exact calculator.reach_cons_of_error stops _

/-- The first rank at fault decides the error of every equation that has the
same words up to it. If no rank of an equation that is not blank is at fault,
its height is positive: an equation of height one has a value, and one of any
other height leaves a stack with as many entries as its height tells. -/
theorem evaluate_iff_first_fault {equation : String}
    (nonblank : Text.isBlankText equation = false) :
    (∀ rank error, calculator.FaultAt (Text.words equation) rank error →
      (∀ earlier < rank, ∀ other, ¬ calculator.FaultAt (Text.words equation) earlier other) →
      ∀ continued, (Text.words continued).take rank = (Text.words equation).take rank →
        calculator.evaluate continued = .error error) ∧
    ((∀ rank error, ¬ calculator.FaultAt (Text.words equation) rank error) →
      1 ≤ calculator.height (Text.words equation) ∧
      ((∃ value, calculator.evaluate equation = .ok value) ↔
        calculator.height (Text.words equation) = 1) ∧
      (calculator.height (Text.words equation) ≠ 1 →
        ∃ entries, calculator.evaluate equation = .error (.leftoverStack entries) ∧
          (entries.length : Int) = calculator.height (Text.words equation) ∧
          2 ≤ entries.length)) := by
  constructor
  · intro rank error fault first continued same
    apply calculator.evaluate_of_reach_error
    have stops := calculator.reach_of_first_fault fault first
      ((Text.words continued).drop rank)
    rw [← same, List.take_append_drop] at stops
    exact stops
  · intro sound
    obtain ⟨stack, reached⟩ := calculator.exists_reach_of_no_fault
      (Nat.le_refl (Text.words equation).length) fun index _ => sound (index + 1)
    rw [List.take_length] at reached
    have height_eq := calculator.length_of_reach reached
    have has_token : Token.ofEquation equation ≠ [] := by
      rw [Ne, Token.ofEquation_eq_nil_iff, nonblank]
      exact Bool.false_ne_true
    rcases calculator.evaluate_of_reach_ok has_token reached with
      ⟨value, rfl, evaluated⟩ | ⟨several, evaluated⟩
    · have one : calculator.height (Text.words equation) = 1 := by
        rw [← height_eq]
        rfl
      exact ⟨by omega, ⟨fun _ => one, fun _ => ⟨value, evaluated⟩⟩, fun other => absurd one other⟩
    · refine ⟨by omega, ⟨?_, fun one => by omega⟩, fun _ => ⟨_, evaluated, ?_, ?_⟩⟩
      · intro valued
        obtain ⟨value, impossible⟩ := valued
        rw [evaluated] at impossible
        cases impossible
      · rw [Number.renderStack, List.length_map, List.length_reverse, height_eq]
      · rw [Number.renderStack, List.length_map, List.length_reverse]
        exact several

/-- A fault in the middle of an equation, and an equation without a fault that
leaves two numbers. -/
theorem first_fault_of_standard :
    (Text.isBlankText "12 * 2 x" = false ∧
      (standard : Calculator Int).FaultAt (Text.words "12 * 2 x") 2
        (.missingArguments ⟨"*", 2⟩) ∧
      (standard : Calculator Int).evaluate "12 * 2 x" = .error (.missingArguments ⟨"*", 2⟩)) ∧
    (Text.isBlankText "12 2 3 4 * + 3" = false ∧
      (∀ rank error, ¬ (standard : Calculator Int).FaultAt (Text.words "12 2 3 4 * + 3")
        rank error) ∧
      (standard : Calculator Int).height (Text.words "12 2 3 4 * + 3") = 3 ∧
      ∃ entries, (standard : Calculator Int).evaluate "12 2 3 4 * + 3" =
        .error (.leftoverStack entries) ∧ entries.length = 3) := by
  have fault : (standard : Calculator Int).FaultAt (Text.words "12 * 2 x") 2
      (.missingArguments ⟨"*", 2⟩) := by
    have needs_two : (standard : Calculator Int).need? "*" = some 2 := rfl
    exact .missing rfl needs_two (by decide)
  have first : ∀ earlier < 2, ∀ other,
      ¬ (standard : Calculator Int).FaultAt (Text.words "12 * 2 x") earlier other := by
    intro earlier smaller other earlier_fault
    obtain ⟨index, text, rfl, here⟩ := earlier_fault.exists_here
    obtain rfl : index = 0 := by omega
    obtain rfl : "12" = text := Option.some.inj here
    have start : (standard : Calculator Int).reach [] (Token.numbered 1 []) = .ok [] := rfl
    have stops := (faultAt_iff_step _ here start).mp earlier_fault
    have succeeds : (standard : Calculator Int).step [] ⟨"12", 1⟩ =
        .ok ⟨⟨"12", 1⟩, .literal, 12, []⟩ := rfl
    cases stops.symm.trans succeeds
  have reached : (standard : Calculator Int).reach []
      (Token.numbered 1 (Text.words "12 2 3 4 * + 3")) = .ok [3, 14, 12] := rfl
  have sound := not_faultAt_of_reach _ reached
  have height_eq : (standard : Calculator Int).height (Text.words "12 2 3 4 * + 3") = 3 := rfl
  refine ⟨⟨by decide, fault, ?_⟩, by decide, sound, height_eq, ?_⟩
  · exact (evaluate_iff_first_fault _ (by decide)).1 2 _ fault first "12 * 2 x" rfl
  · obtain ⟨entries, evaluated, count, _⟩ :=
      ((evaluate_iff_first_fault (standard : Calculator Int) (by decide)).2 sound).2.2
        (by rw [height_eq]; decide)
    exact ⟨entries, evaluated, by omega⟩

end Calculator

end PostfixCalc
