/-
# Records of the log

What the program and its calculators tell about their doing: each record has a
level of detail and a wording. A logger decides which records it writes, and
what it puts around their wording.
-/

import PostfixCalc.Decimal.Digits
import PostfixCalc.Text.Quoted
import PostfixCalc.Token

namespace PostfixCalc

/-- How detailed a record is. -/
inductive Level
  | warn
  | debug
  | trace
  deriving DecidableEq, Repr

namespace Level

/-- The name of a level. -/
def name : Level → String
  | .warn => "WARN"
  | .debug => "DEBUG"
  | .trace => "TRACE"

/-- The rank of a level: the more detailed, the higher. -/
def rank : Level → Nat
  | .warn => 0
  | .debug => 1
  | .trace => 2

end Level

/-- Something that was done. -/
inductive Record
  /-- A command was given these arguments. -/
  | asked (arguments : String)
  /-- Fewer decimals are kept than were asked for. -/
  | bounded (digits : Nat)
  /-- A name was given an operation. -/
  | registered (name : String) (arity : Nat)
  /-- The name had another operation before. -/
  | replaced
  /-- A calculator is complete. -/
  | ready (kindName : String) (size : Nat) (settings : String)
  /-- A literal was pushed. -/
  | pushed (token : Token) (value : String)
  /-- An operation was applied. -/
  | applied (token : Token) (arity : Nat) (value : String)
  /-- An equation has a value. -/
  | evaluated (equation : String) (value : String)
  deriving DecidableEq, Repr

namespace Record

/-- The level of a record: tokens are more detailed than the rest, and what a
user should know is less. -/
def level : Record → Level
  | .bounded _ => .warn
  | .pushed .. | .applied .. => .trace
  | _ => .debug

/-- The token of a record, at its rank. -/
def place (token : Token) : String :=
  token.text ++ "@" ++ Decimal.natText token.position ++ ": "

/-- The wording of a record. -/
def message : Record → String
  | .asked arguments => arguments
  | .bounded digits => "précision bornée à " ++ Decimal.natText digits ++ " décimales"
  | .registered name arity =>
      "registre: " ++ Text.quoted name ++ " (arité " ++ Decimal.natText arity ++ ")"
  | .replaced => "registre: entrée remplacée"
  | .ready kindName size settings =>
      "contexte " ++ kindName ++ ": " ++ Decimal.natText size ++
        " fonctions enregistrées (" ++ settings ++ ")"
  | .pushed token value => place token ++ "littéral " ++ value
  | .applied token arity value =>
      place token ++ "fonction/" ++ Decimal.natText arity ++ " -> " ++ value
  | .evaluated equation value => Text.quoted equation ++ " = " ++ value

/-- A record on one line, its level first. -/
def line (record : Record) : String :=
  record.level.name ++ " " ++ record.message

end Record

end PostfixCalc
