/-
# Tokens

A token is a word of the equation with its rank among the words, counted from
one. Ranks are what diagnostics show: they do not depend on how many blanks
stand between the words.
-/

import PostfixCalc.Text.Blank

namespace PostfixCalc

/-- A word of an equation and its rank, the first word having rank one. -/
structure Token where
  text : String
  position : Nat
  deriving DecidableEq, Repr

namespace Token

/-- Consecutive ranks for the given words. -/
def numbered : Nat → List String → List Token
  | _, [] => []
  | position, text :: rest => ⟨text, position⟩ :: numbered (position + 1) rest

/-- The tokens of an equation; a blank equation has none. -/
def ofEquation (equation : String) : List Token :=
  numbered 1 (Text.words equation)

/-- Tokens carry exactly the words, in order. -/
theorem map_text_numbered (position : Nat) (texts : List String) :
    (numbered position texts).map Token.text = texts := by
  induction texts generalizing position with
  | nil => rfl
  | cons text rest ih => simp [numbered, ih]

end Token

end PostfixCalc
