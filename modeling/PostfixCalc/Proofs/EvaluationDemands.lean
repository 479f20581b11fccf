/-
# Evaluation meets every demand

An evaluation splits arguments off its stack, calls an operation with them, and
computes with numbers whose operations make demands of their own; a new
calculator of rationals has computed pi before any of this. With all these
demands looked at, an evaluation could break off.

Main statement: on the exact kinds of number it never does, at any precision
and for any equation. What it gives, with a trace or without, is what the
evaluation without demands gives: a value, or an error of evaluation. The
failures among these errors are the five of exact arithmetic.
-/

import PostfixCalc.Proofs.NumberDemands
import PostfixCalc.Proofs.ReportedFailures

namespace PostfixCalc

/-- The literals and the initial operations of a calculator, with their demands. -/
structure CheckedCalculator (α : Type) where
  readLiteral? : String → Checked (Option α)
  entries : List (String × CheckedOperation α)

namespace CheckedCalculator

variable {α : Type}

/-- The operation registered last under a name. -/
def find? (checked : CheckedCalculator α) (name : String) : Option (CheckedOperation α) :=
  checked.entries.reverse.lookup name

/-- Under each name the same entry was registered last. -/
theorem rel_lookup {entries : List (String × CheckedOperation α)}
    {plain : List (String × Operation α)}
    (same : List.Forall₂ (fun entry known => entry.1 = known.1 ∧ entry.2.Agrees known.2)
      entries plain) (name : String) :
    Option.Rel CheckedOperation.Agrees (entries.lookup name) (plain.lookup name) := by
  induction same with
  | nil => exact .none
  | @cons entry known _ _ first _ ih =>
      rw [List.lookup_cons, List.lookup_cons, first.1]
      cases name == known.1 with
      | true => exact .some first.2
      | false => exact ih

variable [Number α]

/-- The effect of a token that is not a literal: its record and its step. -/
def applyName (checked : CheckedCalculator α) (stack : List α) (token : Token) :
    Checked (Except EvalError (Record × Step α)) :=
  match checked.find? token.text with
  | none => return .error (.unknownElement token)
  | some operation =>
      if stack.length < operation.arity then return .error (.missingArguments token)
      else do
        let (topmost, below) ← Checked.splitTop stack operation.arity
        match ← operation.call topmost.reverse with
        | .error failure => return .error (.arithmetic failure)
        | .ok value =>
            return .ok (.applied token operation.arity (Number.render value),
              ⟨token, .function operation.arity, value, below⟩)

/-- The effect of one token on a stack given with its top first. -/
def effect (checked : CheckedCalculator α) (stack : List α) (token : Token) :
    Checked (Except EvalError (Record × Step α)) := do
  match ← checked.readLiteral? token.text with
  | some value =>
      return .ok (.pushed token (Number.render value), ⟨token, .literal, value, stack⟩)
  | none => checked.applyName stack token

/-- Process tokens from a given stack, up to the first fault. -/
def runFrom (checked : CheckedCalculator α) (stack : List α) : List Token → Checked (Run α)
  | [] => return ⟨[], [], .ok stack⟩
  | token :: rest => do
      match ← checked.effect stack token with
      | .error error => return ⟨[], [], .error error⟩
      | .ok (record, step) => return (← checked.runFrom step.stack rest).cons record step

/-- The run of an equation. -/
def run (checked : CheckedCalculator α) (equation : String) : Checked (Run α) :=
  match Token.cut equation with
  | .error error => return ⟨[], [], .error error⟩
  | .ok tokens => checked.runFrom [] tokens

/-! ## Runs -/

/-- The checked calculator reads and knows what the plain one does, and neither
its reader nor what it knows ever breaks off. -/
structure Agrees (checked : CheckedCalculator α) (plain : Calculator α) : Prop where
  readLiteral?_eq : ∀ text, checked.readLiteral? text = .ok (plain.readLiteral? text)
  find?_rel : ∀ name, Option.Rel CheckedOperation.Agrees (checked.find? name) (plain.find? name)

namespace Agrees

variable {checked : CheckedCalculator α} {plain : Calculator α}

/-- The arguments are split off only after the stack was seen to hold them, and
these are as many as the operation takes. -/
theorem applyName_eq (agrees : checked.Agrees plain) (stack : List α) (token : Token) :
    checked.applyName stack token = .ok (plain.applyName stack token) := by
  rw [applyName, Calculator.applyName]
  have related := agrees.find?_rel token.text
  generalize checked.find? token.text = found at related ⊢
  generalize plain.find? token.text = known at related ⊢
  cases related with
  | none => rfl
  | @some operation known same =>
      dsimp only
      rw [same.arity_eq]
      by_cases missing : stack.length < known.arity
      · have short : (stack.take known.arity).length < known.arity := by
          rw [List.length_take]
          omega
        rw [if_pos missing, if_pos short]
        rfl
      · have enough : known.arity ≤ stack.length := not_lt.mp missing
        have taken : (stack.take known.arity).length = known.arity :=
          List.length_take_of_le enough
        have full : (stack.take known.arity).reverse.length = known.arity := by
          rw [List.length_reverse, taken]
        rw [if_neg missing, if_neg taken.not_lt, Checked.splitTop, Checked.demand_of_met enough,
          Checked.ok_bind]
        dsimp only
        rw [same.call_eq full, Checked.ok_bind]
        cases known.apply (stack.take known.arity).reverse <;> rfl

theorem effect_eq (agrees : checked.Agrees plain) (stack : List α) (token : Token) :
    checked.effect stack token = .ok (plain.effect stack token) := by
  rw [effect, Calculator.effect, agrees.readLiteral?_eq, Checked.ok_bind]
  cases plain.readLiteral? token.text with
  | some value => rfl
  | none => exact agrees.applyName_eq stack token

/-- No token of a run breaks off, so neither does the run. -/
theorem runFrom_eq (agrees : checked.Agrees plain) (stack : List α) (tokens : List Token) :
    checked.runFrom stack tokens = .ok (plain.runFrom stack tokens) := by
  induction tokens generalizing stack with
  | nil => rfl
  | cons token rest ih =>
      rw [runFrom, Calculator.runFrom, agrees.effect_eq, Checked.ok_bind]
      cases plain.effect stack token with
      | error error => rfl
      | ok completed =>
          dsimp only
          rw [ih]
          rfl

theorem run_eq (agrees : checked.Agrees plain) (equation : String) :
    checked.run equation = .ok (plain.run equation) := by
  rw [run, Calculator.run]
  cases Token.cut equation with
  | error error => rfl
  | ok tokens => exact agrees.runFrom_eq [] tokens

end Agrees

theorem agrees_of_entries {checked : CheckedCalculator α} {settings : Number.Settings α}
    {entries : List (String × Operation α)}
    (reads : ∀ text, checked.readLiteral? text = .ok (Number.readLiteral? settings text))
    (same : List.Forall₂ (fun entry known => entry.1 = known.1 ∧ entry.2.Agrees known.2)
      checked.entries entries) :
    checked.Agrees (Calculator.ofEntries settings entries) := by
  refine ⟨reads, fun name => ?_⟩
  rw [find?, Calculator.find?_ofEntries]
  exact rel_lookup (List.forall₂_reverse_iff.mpr same) name

end CheckedCalculator

namespace Checked

/-! ## New calculators -/

/-- Arithmetic under its signs. Only division has demands. -/
def arithmetic {α : Type} [Number α] (divide : α → α → Checked (Except Failure α)) :
    List (String × CheckedOperation α) :=
  [("+", .binary fun x y => return Number.plus x y),
   ("-", .binary fun x y => return Number.minus x y),
   ("*", .binary fun x y => return Number.times x y),
   ("/", .binary divide)]

/-- A new calculator of rationals, once pi is computed. -/
def rationalCalculator (precision : Precision) : Checked (CheckedCalculator Rat) := do
  let pi ← pi precision.digits
  let root := CheckedOperation.unary (rationalRoot precision)
  return {
    readLiteral? := readRational?
    entries := arithmetic (fun x y => unlessZero y (x / y)) ++
      [("sqrt", root),
       ("√", root),
       ("pi", .constant pi),
       ("π", .constant pi),
       ("abs", .unary fun r => return .ok r.abs),
       ("neg", .unary fun r => return .ok (-r)),
       ("inv", .unary fun r => unlessZero r r⁻¹),
       ("^", .binary rationalPower)] }

/-- A calculator of integers on a library. -/
def integerCalculator (library : Integer.Library) : Checked (CheckedCalculator Int) :=
  return {
    readLiteral? := fun text => return Decimal.readInteger? text.toList
    entries := arithmetic (fun x y => unlessZero y (x.tdiv y)) ++
      [("abs", .unary fun x => return .ok (x.natAbs : Int)),
       ("neg", .unary fun x => return .ok (-x)),
       ("sqrt", .unary (integerRoot library)),
       ("%", .binary fun x y => unlessZero y (x.tmod y)),
       ("^", .binary integerPower)] }

theorem exists_rationalCalculator (precision : Precision) :
    ∃ checked, rationalCalculator precision = .ok checked ∧
      checked.Agrees (Calculator.ofSettings precision) := by
  rw [rationalCalculator, pi_eq]
  refine ⟨_, rfl, CheckedCalculator.agrees_of_entries readRational?_eq ?_⟩
  have root := CheckedOperation.Agrees.unary (rationalRoot_eq precision)
  have pi := CheckedOperation.Agrees.constant (Approx.pi precision.digits)
  exact .cons ⟨rfl, .binary fun _ _ => rfl⟩ (.cons ⟨rfl, .binary fun _ _ => rfl⟩
    (.cons ⟨rfl, .binary fun _ _ => rfl⟩
    (.cons ⟨rfl, .binary fun x y => unlessZero_eq y (x / y)⟩
    (.cons ⟨rfl, root⟩ (.cons ⟨rfl, root⟩ (.cons ⟨rfl, pi⟩ (.cons ⟨rfl, pi⟩
    (.cons ⟨rfl, .unary fun _ => rfl⟩ (.cons ⟨rfl, .unary fun _ => rfl⟩
    (.cons ⟨rfl, .unary fun r => unlessZero_eq r r⁻¹⟩
    (.cons ⟨rfl, .binary rationalPower_eq⟩ .nil)))))))))))

theorem exists_integerCalculator (library : Integer.Library) :
    ∃ checked, integerCalculator library = .ok checked ∧
      checked.Agrees (Calculator.ofLibrary library) := by
  refine ⟨_, rfl, CheckedCalculator.agrees_of_entries (fun _ => rfl) ?_⟩
  exact .cons ⟨rfl, .binary fun _ _ => rfl⟩ (.cons ⟨rfl, .binary fun _ _ => rfl⟩
    (.cons ⟨rfl, .binary fun _ _ => rfl⟩
    (.cons ⟨rfl, .binary fun x y => unlessZero_eq y (x.tdiv y)⟩
    (.cons ⟨rfl, .unary fun _ => rfl⟩ (.cons ⟨rfl, .unary fun _ => rfl⟩
    (.cons ⟨rfl, .unary (integerRoot_eq library)⟩
    (.cons ⟨rfl, .binary fun x y => unlessZero_eq y (x.tmod y)⟩
    (.cons ⟨rfl, .binary integerPower_eq⟩ .nil))))))))

end Checked

/-! ## Evaluation -/

namespace Checked

variable {α : Type} [Number α]

/-- The value of an equation in a new calculator. -/
def evaluate (calculator : Checked (CheckedCalculator α)) (equation : String) :
    Checked (Except EvalError α) := do
  return (← (← calculator).run equation).value

/-- The value of an equation in a new calculator together with its trace. -/
def explain (calculator : Checked (CheckedCalculator α)) (equation : String) :
    Checked (Except EvalError (α × List TraceStep)) := do
  let run ← (← calculator).run equation
  return run.value.map fun value => (value, run.trace)

/-- With all its demands an evaluation breaks off nowhere, and gives what it
gives without them. -/
structure MeetsDemands (calculator : Checked (CheckedCalculator α)) (plain : Calculator α)
    (equation : String) : Prop where
  evaluate_eq : evaluate calculator equation = .ok (plain.evaluate equation)
  explain_eq : explain calculator equation = .ok (plain.explain equation)

theorem meetsDemands_of_agrees {calculator : Checked (CheckedCalculator α)}
    {plain : Calculator α}
    (agrees : ∃ checked, calculator = .ok checked ∧ checked.Agrees plain) (equation : String) :
    MeetsDemands calculator plain equation := by
  obtain ⟨checked, rfl, same⟩ := agrees
  constructor
  · rw [evaluate, ok_bind, same.run_eq]
    rfl
  · rw [explain, ok_bind, same.run_eq, plain.explain_eq]
    rfl

end Checked

/-- Evaluation in a new calculator of rationals, at any precision, or of
integers, on any library, meets every demand on the way, for every equation, with
a trace or without. It splits off no more than the stack holds, calls each operation with
as many arguments as its arity, and divides by zero nowhere. Each failure that
it reports is one of exact arithmetic. -/
theorem exact_evaluation_meets_demands :
    (∀ (precision : Precision) (equation : String),
      let calculator : Calculator Rat := .ofSettings precision
      Checked.MeetsDemands (Checked.rationalCalculator precision) calculator equation ∧
      ∀ failure, calculator.evaluate equation = .error (.arithmetic failure) →
        ExactFailure failure) ∧
    ∀ (library : Integer.Library) (equation : String),
      let calculator : Calculator Int := .ofLibrary library
      Checked.MeetsDemands (Checked.integerCalculator library) calculator equation ∧
      ∀ failure, calculator.evaluate equation = .error (.arithmetic failure) →
        ExactFailure failure := by
  refine ⟨fun precision equation => ⟨?_, fun failure => ?_⟩,
    fun library equation => ⟨?_, fun failure => ?_⟩⟩
  · exact Checked.meetsDemands_of_agrees (Checked.exists_rationalCalculator precision) equation
  · exact Calculator.allowed_of_ofEntries (Calculator.rational_reports precision)
  · exact Checked.meetsDemands_of_agrees (Checked.exists_integerCalculator library) equation
  · exact Calculator.allowed_of_ofEntries (Calculator.integer_reports library)

/-- A fraction, a power with a negative exponent, a root and pi before a division
by zero, and integers with a remainder and a root. -/
theorem demands_of_failing_quotient :
    Checked.evaluate (Checked.rationalCalculator (.ofNat 3)) "1/4 1.5e-1 -2 ^ sqrt pi 0 / +" =
      .ok (.error (.arithmetic .divisionByZero)) ∧
    (Calculator.ofSettings (.ofNat 3) : Calculator Rat).evaluate
      "1/4 1.5e-1 -2 ^ sqrt pi 0 / +" = .error (.arithmetic .divisionByZero) ∧
    ExactFailure .divisionByZero ∧
    Checked.evaluate (Checked.integerCalculator .standard) "-7 3 % 17 sqrt ^" = .ok (.ok 1) := by
  obtain ⟨rational, integer⟩ := exact_evaluation_meets_demands
  obtain ⟨met, exact_failure⟩ := rational (.ofNat 3) "1/4 1.5e-1 -2 ^ sqrt pi 0 / +"
  have fails : (Calculator.ofSettings (.ofNat 3) : Calculator Rat).evaluate
      "1/4 1.5e-1 -2 ^ sqrt pi 0 / +" = .error (.arithmetic .divisionByZero) := by
    decide +kernel
  have value : (Calculator.ofLibrary .standard).evaluate "-7 3 % 17 sqrt ^" = .ok 1 := by
    decide +kernel
  refine ⟨?_, fails, exact_failure _ fails, ?_⟩
  · rw [met.evaluate_eq, fails]
  · rw [(integer .standard "-7 3 % 17 sqrt ^").1.evaluate_eq, value]

end PostfixCalc
