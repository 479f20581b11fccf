/-
# Failures of an operation

An operation that has no result says why. The cause is kept as such, and its
wording is decided in one place. A failure knows nothing of the equation in
which the operation was used.
-/

namespace PostfixCalc

/-- Why an operation has no result. -/
inductive Failure
  /-- A divisor, or a base raised to a negative exponent, is zero. -/
  | divisionByZero
  /-- A square root is asked of a negative number. -/
  | negativeRoot
  /-- The exponent of an exact power is not an integer. -/
  | fractionalExponent
  /-- The exponent of an integer power is negative. -/
  | negativeExponent
  /-- The exact power would be too large to write down. -/
  | exponentTooLarge
  /-- The named function has no finite value at its arguments. -/
  | outOfDomain (name : String)
  /-- A fold over the arguments was given none. -/
  | noArguments
  /-- The number of arguments is not the one that the operation declares. -/
  | argumentCount
  /-- A cause worded by the author of a registered function. -/
  | reported (message : String)
  deriving DecidableEq, Repr

/-- The wording of a failure. -/
def Failure.message : Failure → String
  | .divisionByZero => "division par zéro"
  | .negativeRoot => "racine carrée d’un nombre négatif"
  | .fractionalExponent => "exposant doit être entier"
  | .negativeExponent => "exposant négatif"
  | .exponentTooLarge => "exposant trop grand"
  | .outOfDomain name => name ++ ": résultat hors domaine"
  | .noArguments => "aucun argument"
  | .argumentCount => "nombre d’arguments"
  | .reported message => message

end PostfixCalc
