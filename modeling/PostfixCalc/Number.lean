/-
# Kinds of number

What a type of numbers must bring to the calculator: a literal grammar,
arithmetic that reports its failures, named operations of its own, and a
written form. Settings belong to the calculator and not to the numbers; they
choose the operations, and a reader of literals may look at them.

No law is asked of an instance. What evaluation guarantees holds for every
instance, and the laws of each kind of number are stated for that kind: among
them, that none of the kinds here reads a literal otherwise for its settings.
-/

import PostfixCalc.Operation
import PostfixCalc.Text.Quoted

namespace PostfixCalc

/-- A text that is not a literal of the kind of number it was read as. -/
structure InvalidLiteral where
  text : String
  deriving DecidableEq, Repr

/-- The wording of an invalid literal. -/
def InvalidLiteral.message (invalid : InvalidLiteral) : String :=
  "littéral invalide: " ++ Text.quoted invalid.text

/-- A type of numbers that equations can be evaluated in. -/
class Number (α : Type) where
  /-- What can be chosen about the operations of this kind of number. -/
  Settings : Type
  /-- The choice made when none is given. -/
  defaultSettings : Settings
  /-- The structured description of the settings. -/
  describeSettings : Settings → String
  /-- The name of this kind of number. -/
  kindName : String
  /-- The number that a text denotes under settings, if it is a literal. -/
  readLiteral? : Settings → String → Option α
  /-- The written form of a number. -/
  render : α → String
  plus : α → α → Except Failure α
  minus : α → α → Except Failure α
  times : α → α → Except Failure α
  dividedBy : α → α → Except Failure α
  /-- The named operations beyond the four of arithmetic, in order of registration. -/
  functions : Settings → List (String × Operation α)

namespace Number

variable {α : Type} [Number α]

/-- The number that a text denotes under settings, or the text back if it is
not a literal. -/
def read (text : String) (settings : Settings α := defaultSettings) : Except InvalidLiteral α :=
  match readLiteral? settings text with
  | some value => .ok value
  | none => .error ⟨text⟩

/-- The four operations of arithmetic under their signs. -/
def arithmetic : List (String × Operation α) :=
  [("+", .binary plus), ("-", .binary minus), ("*", .binary times), ("/", .binary dividedBy)]

/-- The written forms of a stack given with its top first, from the bottom up. -/
def renderStack (stack : List α) : List String :=
  stack.reverse.map render

end Number

end PostfixCalc
