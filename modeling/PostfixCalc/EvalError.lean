/-
# Errors of an evaluation

An evaluation ends with one number or with one of five errors. An error about
a token keeps the token; an arithmetic error keeps the failure of the
operation unchanged; an equation that leaves too much on the stack keeps the
written values, first pushed first.
-/

import PostfixCalc.Failure
import PostfixCalc.Text.Quoted
import PostfixCalc.Token

namespace PostfixCalc

/-- Why an equation has no value. -/
inductive EvalError
  /-- The equation has no token. -/
  | emptyEquation
  /-- The token is neither a literal nor a known name. -/
  | unknownElement (token : Token)
  /-- The stack holds fewer values than the named operation takes. -/
  | missingArguments (token : Token)
  /-- The operation failed on its arguments. -/
  | arithmetic (failure : Failure)
  /-- The final stack does not hold exactly one value. -/
  | leftoverStack (entries : List String)
  deriving DecidableEq, Repr

namespace EvalError

/-- The five kinds of error, without what they carry. -/
inductive Kind
  | emptyEquation
  | unknownElement
  | missingArguments
  | arithmetic
  | leftoverStack
  deriving DecidableEq, Repr

/-- A stable code for layers that choose their own wording. -/
def Kind.code : Kind → String
  | .emptyEquation => "equation-vide"
  | .unknownElement => "element-invalide"
  | .missingArguments => "arguments-manquants"
  | .arithmetic => "echec-arithmetique"
  | .leftoverStack => "equation-invalide"

/-- The name of a kind in structured descriptions. -/
def Kind.label : Kind → String
  | .emptyEquation => "EquationVide"
  | .unknownElement => "ElementInvalide"
  | .missingArguments => "ArgumentsManquants"
  | .arithmetic => "EchecArithmetique"
  | .leftoverStack => "EquationInvalide"

/-- The kind of an error. -/
def kind : EvalError → Kind
  | .emptyEquation => .emptyEquation
  | .unknownElement _ => .unknownElement
  | .missingArguments _ => .missingArguments
  | .arithmetic _ => .arithmetic
  | .leftoverStack _ => .leftoverStack

/-- The token at fault, for the errors about a token. -/
def token? : EvalError → Option Token
  | .unknownElement token | .missingArguments token => some token
  | _ => none

/-- The values left on the stack, for the error about the final stack. -/
def entries? : EvalError → Option (List String)
  | .leftoverStack entries => some entries
  | _ => none

/-- The wording of an error, on one line. -/
def message : EvalError → String
  | .emptyEquation => "équation vide"
  | .unknownElement token =>
      "élément invalide " ++ Text.quoted token.text ++ " en position " ++
        Nat.repr token.position
  | .missingArguments token =>
      "arguments manquants pour " ++ Text.quoted token.text ++ " en position " ++
        Nat.repr token.position
  | .arithmetic failure => failure.message
  | .leftoverStack entries =>
      "équation invalide, pile finale: [" ++ Text.commaSeparated entries ++ "]"

/-- The structured description of a token at fault. -/
private def describeToken (label : String) (token : Token) : String :=
  label ++ " \x7b element: " ++ Text.quoted token.text ++ ", position: " ++
    Nat.repr token.position ++ " \x7d"

/-- The structured description of an error, naming its kind and its fields. -/
def describe (error : EvalError) : String :=
  let label := error.kind.label
  match error with
  | .emptyEquation => label
  | .unknownElement token | .missingArguments token => describeToken label token
  | .arithmetic failure =>
      label ++ "(EchecArithmetique \x7b message: " ++ Text.quoted failure.message ++ " \x7d)"
  | .leftoverStack entries => label ++ " \x7b pile: " ++ Text.quotedList entries ++ " \x7d"

end EvalError

end PostfixCalc
