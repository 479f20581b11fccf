/-
# Folding a part of an equation

Words that have a value of their own put this one number on whatever stack
they are met with, and so does the written form of an exact number. The one
can therefore take the place of the other anywhere in an equation: what
changes is only the rank of the tokens that come later.

Only exact numbers are considered; nothing is claimed of floating ones.
-/

import PostfixCalc.Proofs.ExactText
import PostfixCalc.Proofs.Reach

namespace PostfixCalc

/-- A token at its rank after `length` tokens behind the first `before` of
them have become one. -/
def Token.afterFolding (before length : Nat) (token : Token) : Token :=
  if token.position ≤ before then token
  else ⟨token.text, token.position - (length - 1)⟩

namespace Calculator

variable {α : Type} [Number α] (calculator : Calculator α)

/-- One text may take the place of words between any others: the outcome is
the same, except that a fault behind the place is shown at its new rank. No
fault is about the words replaced. -/
structure FoldsTo (inner : List String) (text : String) : Prop where
  same_outcome : ∀ before after : List String,
    (∀ word ∈ before ++ inner ++ after, Text.IsWord word) →
    calculator.evaluate (" ".intercalate (before ++ text :: after)) =
      (calculator.evaluate (" ".intercalate (before ++ inner ++ after))).mapError
        (EvalError.mapToken (Token.afterFolding before.length inner.length))
  fault_outside : ∀ before after : List String,
    (∀ word ∈ before ++ inner ++ after, Text.IsWord word) →
    ∀ error token, error.token? = some token →
      calculator.evaluate (" ".intercalate (before ++ inner ++ after)) = .error error →
      token.position ≤ before.length ∨ before.length + inner.length < token.position

/-- Words lead from every stack to one more number on it, at any rank. -/
def Pushes (texts : List String) (value : α) : Prop :=
  ∀ position stack, calculator.reach stack (Token.numbered position texts) = .ok (value :: stack)

/-- Words that have a value of their own push it. -/
theorem pushes_of_evaluate {texts : List String} {value : α}
    (each : ∀ text ∈ texts, Text.IsWord text)
    (evaluated : calculator.evaluate (" ".intercalate texts) = .ok value) :
    calculator.Pushes texts value := by
  intro position stack
  rw [evaluate_eq_ok_iff, Token.ofEquation_intercalate each] at evaluated
  let move (token : Token) : Token := ⟨token.text, position + (token.position - 1)⟩
  have moved : (Token.numbered 1 texts).map move = Token.numbered position texts := by
    apply Token.map_numbered
    intro text index _
    simp only [move, Nat.add_sub_cancel_left]
  have alone : calculator.reach [] (Token.numbered position texts) = .ok [value] := by
    rw [← moved, calculator.reach_map move fun _ => rfl, evaluated]
    rfl
  exact calculator.reach_append_below alone stack

/-- A literal pushes its value. -/
theorem pushes_of_literal {text : String} {value : α}
    (reads : calculator.readLiteral? text = some value) : calculator.Pushes [text] value := by
  intro position stack
  have succeeds : calculator.step stack ⟨text, position⟩ =
      .ok ⟨⟨text, position⟩, .literal, value, stack⟩ := by
    simp [Calculator.step, effect, reads, Except.map]
  exact calculator.reach_cons_of_ok succeeds []

section Pushed

variable {inner : List String} {value : α} (pushes : calculator.Pushes inner value)

include pushes

theorem ne_nil_of_pushes : inner ≠ [] := by
  intro empty
  subst empty
  have grown : Except.ok [] = (Except.ok [value] : Except EvalError (List α)) := pushes 1 []
  cases grown

/-- Words between others are either not met, or add their number to the stack. -/
theorem reach_around (position : Nat) (before after : List String) :
    calculator.reach [] (Token.numbered position (before ++ inner ++ after)) =
      (calculator.reach [] (Token.numbered position before)).bind fun stack =>
        calculator.reach (value :: stack)
          (Token.numbered (position + before.length + inner.length) after) := by
  rw [List.append_assoc, Token.numbered_append, Token.numbered_append]
  cases start : calculator.reach [] (Token.numbered position before) with
  | error error => exact calculator.reach_append_of_error start _
  | ok stack =>
      rw [calculator.reach_append_of_ok start, calculator.reach_append_of_ok (pushes _ stack)]
      rfl

/-- A text that pushes the same number leads to the same stack or fault, the
tokens behind it having moved. -/
theorem reach_folded {text : String} (same : calculator.Pushes [text] value)
    (before after : List String) :
    calculator.reach [] (Token.numbered 1 (before ++ [text] ++ after)) =
      (calculator.reach [] (Token.numbered 1 (before ++ inner ++ after))).mapError
        (EvalError.mapToken (Token.afterFolding before.length inner.length)) := by
  let move := Token.afterFolding before.length inner.length
  have same_text : ∀ token, (move token).text = token.text := by
    intro token
    simp only [move, Token.afterFolding]
    split <;> rfl
  have several : 0 < inner.length := List.length_pos_iff.mpr (calculator.ne_nil_of_pushes pushes)
  have front_stays : (Token.numbered 1 before).map move = Token.numbered 1 before := by
    apply Token.map_numbered
    intro word index inside
    exact if_pos (show 1 + index ≤ before.length by omega)
  have back_moves : (Token.numbered (1 + before.length + inner.length) after).map move =
      Token.numbered (1 + before.length + [text].length) after := by
    apply Token.map_numbered
    intro word index _
    have behind : ¬ 1 + before.length + inner.length + index ≤ before.length := by omega
    have rank : 1 + before.length + inner.length + index - (inner.length - 1) =
        1 + before.length + [text].length + index := by
      rw [List.length_singleton]
      omega
    simp only [move, Token.afterFolding, behind, if_false, rank]
  have front := calculator.reach_map move same_text [] (Token.numbered 1 before)
  rw [front_stays] at front
  rw [calculator.reach_around same, calculator.reach_around pushes]
  cases start : calculator.reach [] (Token.numbered 1 before) with
  | error error =>
      rw [start] at front
      exact front
  | ok stack =>
      have back := calculator.reach_map move same_text (value :: stack)
        (Token.numbered (1 + before.length + inner.length) after)
      rw [back_moves] at back
      exact back

/-- No fault is about the words that push a number. -/
theorem fault_around {before after : List String} {error : EvalError} {token : Token}
    (fails : calculator.reach [] (Token.numbered 1 (before ++ inner ++ after)) = .error error)
    (about : error.token? = some token) :
    token.position ≤ before.length ∨ before.length + inner.length < token.position := by
  rw [calculator.reach_around pushes] at fails
  cases start : calculator.reach [] (Token.numbered 1 before) with
  | error earlier =>
      rw [start] at fails
      cases fails
      have inside := Token.mem_numbered (calculator.token_mem_of_reach_error start about)
      exact .inl (by omega)
  | ok stack =>
      rw [start] at fails
      have inside := Token.mem_numbered (calculator.token_mem_of_reach_error fails about)
      exact .inr (by omega)

end Pushed

/-- Of words and a text that push the same number, the text can take the
place of the words. -/
theorem foldsTo_of_pushes {inner : List String} {text : String} {value : α}
    (pushes : calculator.Pushes inner value) (same : calculator.Pushes [text] value)
    (word : Text.IsWord text) : calculator.FoldsTo inner text := by
  refine ⟨fun before after each => ?_, fun before after each error token about fails => ?_⟩
  · have each_folded : ∀ other ∈ before ++ [text] ++ after, Text.IsWord other := by
      intro other member
      rcases List.mem_append.mp member with member | later
      · rcases List.mem_append.mp member with earlier | here
        · exact each other (by simp [earlier])
        · rw [List.mem_singleton.mp here]
          exact word
      · exact each other (by simp [later])
    rw [← List.singleton_append, ← List.append_assoc]
    apply calculator.evaluate_eq_mapError
    · rw [Token.ofEquation_intercalate each_folded, Ne, Token.numbered_eq_nil_iff]
      simp
    · rw [Token.ofEquation_intercalate each, Ne, Token.numbered_eq_nil_iff]
      simp [calculator.ne_nil_of_pushes pushes]
    · rw [Token.ofEquation_intercalate each_folded, Token.ofEquation_intercalate each]
      exact calculator.reach_folded pushes same before after
  · have stops := calculator.reach_eq_error_of_token? about fails
    rw [Token.ofEquation_intercalate each] at stops
    exact calculator.fault_around pushes stops about

/-- Words with a value fold to the written value, if written values read back. -/
theorem foldsTo_of_evaluate (reads_back : Number.ReadsBack α) {inner : List String} {value : α}
    (each : ∀ word ∈ inner, Text.IsWord word)
    (evaluated : calculator.evaluate (" ".intercalate inner) = .ok value) :
    calculator.FoldsTo inner (Number.render value) := by
  obtain ⟨reads, word⟩ := reads_back calculator.settings value
  exact calculator.foldsTo_of_pushes (calculator.pushes_of_evaluate each evaluated)
    (calculator.pushes_of_literal reads) word

/-- On integers and on rationals, words with a value can be replaced by this
value written out, in any equation and whatever names the calculator knows. -/
theorem foldsTo_render_of_exact {inner : List String} (each : ∀ word ∈ inner, Text.IsWord word) :
    (∀ (calculator : Calculator Int) (value : Int),
      calculator.evaluate (" ".intercalate inner) = .ok value →
        calculator.FoldsTo inner (Number.render value)) ∧
    (∀ (calculator : Calculator Rat) (value : Rat),
      calculator.evaluate (" ".intercalate inner) = .ok value →
        calculator.FoldsTo inner (Number.render value)) := by
  refine ⟨fun calculator value evaluated => ?_, fun calculator value evaluated => ?_⟩
  · exact calculator.foldsTo_of_evaluate Integer.readsBack each evaluated
  · exact calculator.foldsTo_of_evaluate Rational.readsBack each evaluated

/-- A sum and a quotient that are replaced by their values, before a fault and
before a number left over. -/
theorem exact_words_fold :
    (∀ word ∈ ["2", "3", "+"], Text.IsWord word) ∧
    (standard : Calculator Int).evaluate "2 3 +" = .ok 5 ∧
    (standard : Calculator Int).evaluate "7 5 / x" = .error (.unknownElement ⟨"x", 4⟩) ∧
    (∀ word ∈ ["1", "-3", "/"], Text.IsWord word) ∧
    (standard : Calculator Rat).evaluate "1 -3 /" = .ok (-1 / 3) ∧
    (standard : Calculator Rat).evaluate "2 -1/3 + 4" =
      .error (.leftoverStack ["5/3", "4"]) := by
  have sum_words : ∀ word ∈ ["2", "3", "+"], Text.IsWord word := by decide
  have sum : (standard : Calculator Int).evaluate "2 3 +" = .ok 5 := rfl
  have quotient_words : ∀ word ∈ ["1", "-3", "/"], Text.IsWord word := by decide
  have quotient : (standard : Calculator Rat).evaluate "1 -3 /" = .ok (-1 / 3) := by
    decide +kernel
  have sum_folds := (foldsTo_render_of_exact sum_words).1 standard 5 sum
  have written : Number.render (-1 / 3 : Rat) = "-1/3" := by decide +kernel
  have quotient_folds := (foldsTo_render_of_exact quotient_words).2 standard (-1 / 3) quotient
  rw [written] at quotient_folds
  refine ⟨sum_words, sum, ?_, quotient_words, quotient, ?_⟩
  · have long : (standard : Calculator Int).evaluate "7 2 3 + / x" =
        .error (.unknownElement ⟨"x", 6⟩) := by
      decide +kernel
    have short := sum_folds.same_outcome ["7"] ["/", "x"] (by decide)
    exact short.trans (congrArg (Except.mapError _) long)
  · have long : (standard : Calculator Rat).evaluate "2 1 -3 / + 4" =
        .error (.leftoverStack ["5/3", "4"]) := by
      decide +kernel
    have short := quotient_folds.same_outcome ["2"] ["+", "4"] (by decide)
    exact short.trans (congrArg (Except.mapError _) long)

end Calculator

end PostfixCalc
