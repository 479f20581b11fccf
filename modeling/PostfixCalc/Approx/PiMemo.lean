/-
# Remembered values of pi

Pi is computed once for each number of decimals and remembered for as long as
the process lives. A memo is what is remembered at one time; a request hands
it on together with the answer, and nothing is ever forgotten.
-/

import PostfixCalc.Approx.Pi
import Std.Data.TreeMap

namespace PostfixCalc.Approx

/-- The remembered numbers of units in pi, by the number of decimals. -/
structure PiMemo where
  units : Std.TreeMap Nat Int

namespace PiMemo

/-- The memo of a process that has not been asked for pi. -/
def empty : PiMemo :=
  ⟨∅⟩

/-- Pi in units of the last of the given number of decimals, and the memo that
remembers it. -/
def unitsOfPi (memo : PiMemo) (digits : Nat) : Int × PiMemo :=
  match memo.units[digits]? with
  | some known => (known, memo)
  | none =>
      let computed := piUnits digits
      (computed, ⟨memo.units.insert digits computed⟩)

/-- Pi with the given number of decimals, as a rational. -/
def request (memo : PiMemo) (digits : Nat) : Rat × PiMemo :=
  let (units, later) := memo.unitsOfPi digits
  (Decimal.ofScaled units digits, later)

/-- The answers to requests that are made one after the other. -/
def answers (memo : PiMemo) : List Nat → List Rat
  | [] => []
  | digits :: rest =>
      let (answer, later) := memo.request digits
      answer :: later.answers rest

end PiMemo

end PostfixCalc.Approx
