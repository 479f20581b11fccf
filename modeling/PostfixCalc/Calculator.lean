/-
# Calculators

A calculator is a vocabulary together with the settings that its own
operations were made from. It is a value like the vocabulary: a copy is
independent of what is registered in the other later.
-/

import PostfixCalc.Number
import PostfixCalc.Vocabulary

namespace PostfixCalc

/-- The settings and the known names of one kind of number. -/
structure Calculator (α : Type) [Number α] where
  settings : Number.Settings α
  vocabulary : Vocabulary α

namespace Calculator

variable {α : Type} [Number α]

/-- What a calculator knows at first: arithmetic, then the operations of its
kind of number. -/
def initialOperations (settings : Number.Settings α) : List (String × Operation α) :=
  Number.arithmetic ++ Number.functions settings

/-- The calculator that knows what was registered from first to last and nothing else. -/
def ofEntries (settings : Number.Settings α) (entries : List (String × Operation α)) :
    Calculator α where
  settings := settings
  vocabulary := Vocabulary.empty.registerAll entries

/-- The calculator that knows its initial operations and no other. -/
def ofSettings (settings : Number.Settings α) : Calculator α :=
  ofEntries settings (initialOperations settings)

/-- The calculator with the default settings. -/
def standard : Calculator α :=
  ofSettings Number.defaultSettings

/-- Give a name its operation, in place of any it had. -/
def register (calculator : Calculator α) (name : String) (operation : Operation α) :
    Calculator α :=
  { calculator with vocabulary := calculator.vocabulary.register name operation }

/-- The number that a text denotes for a calculator, if it is a literal. -/
def readLiteral? (calculator : Calculator α) (text : String) : Option α :=
  Number.readLiteral? calculator.settings text

/-- The operation known under a name. -/
def find? (calculator : Calculator α) (name : String) : Option (Operation α) :=
  calculator.vocabulary.find? name

/-- A registration decides what is known under its own name and no other. -/
theorem find?_register (calculator : Calculator α) (name other : String)
    (operation : Operation α) :
    (calculator.register name operation).find? other =
      if name = other then some operation else calculator.find? other :=
  calculator.vocabulary.find?_register name other operation

/-- The last entry under a name is known. -/
theorem find?_ofEntries (settings : Number.Settings α) (entries : List (String × Operation α))
    (name : String) :
    (ofEntries settings entries).find? name = entries.reverse.lookup name := by
  rw [find?, ofEntries, Vocabulary.find?_registerAll, Vocabulary.find?_empty, Option.or_none]

/-- A new calculator knows the last of its initial operations under each name. -/
theorem find?_ofSettings (settings : Number.Settings α) (name : String) :
    (ofSettings settings).find? name = (initialOperations settings).reverse.lookup name :=
  find?_ofEntries settings _ name

/-- The known names, in the order of their code points. -/
def names (calculator : Calculator α) : List String :=
  calculator.vocabulary.names

/-- The number of known names. -/
def size (calculator : Calculator α) : Nat :=
  calculator.vocabulary.size

/-- The structured description of a calculator. -/
def describe (calculator : Calculator α) : String :=
  "Contexte \x7b nombre: " ++ Text.quoted (Number.kindName α) ++
    ", reglages: " ++ Number.describeSettings calculator.settings ++
    ", registre: " ++ calculator.vocabulary.describe ++ " \x7d"

end Calculator

end PostfixCalc
