/-
# Traces

The trace of an evaluation shows, for each token, what the token was and the
written stack after it. Only an evaluation that succeeds has a trace.

A trace is laid out in columns, one line per step: the rank of the token, the
token, its role, and the stack between brackets. The column of the tokens is
as wide as the widest of them; ranks and roles wider than their columns are
written in full.

Columns have any width here. Where a text formatter counts widths in 16 bits, as
some versions of one library do, a trace with a token of more than 65535
characters has no layout.
-/

import PostfixCalc.Evaluation

namespace PostfixCalc

/-- A token, what it was, and the written stack after it from the bottom up. -/
structure TraceStep where
  token : Token
  role : Role
  entries : List String
  deriving DecidableEq, Repr

namespace Run

variable {α : Type} [Number α]

/-- The steps of a run with their stacks written out. -/
def trace (run : Run α) : List TraceStep :=
  run.steps.map fun step => ⟨step.token, step.role, Number.renderStack step.stack⟩

end Run

namespace Calculator

variable {α : Type} [Number α]

/-- The value of an equation together with its trace. -/
def explain (calculator : Calculator α) (equation : String) :
    Except EvalError (α × List TraceStep) :=
  let run := calculator.run equation
  match run.value with
  | .error error => .error error
  | .ok value => .ok (value, run.trace)

end Calculator

namespace Trace

/-- The least width of the column of ranks. -/
def positionWidth : Nat :=
  3

/-- The least width of the column of roles. -/
def roleWidth : Nat :=
  10

/-- A text moved to the right of a column. -/
def alignRight (width : Nat) (text : String) : String :=
  String.ofList (text.toList.leftpad width ' ')

/-- A text moved to the left of a column. -/
def alignLeft (width : Nat) (text : String) : String :=
  String.ofList (text.toList.rightpad width ' ')

/-- The text of a role. -/
def roleText : Role → String
  | .literal => "littéral"
  | .function arity => "fonction/" ++ Decimal.natText arity

/-- One line, with the given width for the column of tokens. -/
def line (width : Nat) (step : TraceStep) : String :=
  alignRight positionWidth (Decimal.natText step.token.position) ++ "  " ++
    alignLeft width step.token.text ++ "  " ++
    alignLeft roleWidth (roleText step.role) ++
    " [" ++ Text.commaSeparated step.entries ++ "]"

/-- The number of characters of the widest token. -/
def widest (steps : List TraceStep) : Nat :=
  steps.foldl (fun width step => max width step.token.text.length) 0

/-- The lines of a trace, without a newline at the end. -/
def layout (steps : List TraceStep) : String :=
  "\n".intercalate (steps.map (line (widest steps)))

end Trace

end PostfixCalc
