/-
# The command line

A command evaluates the equations it is given, or else the lines of its
standard input that are not blank, each on its own: a failing equation writes
one line of error and stops nothing. The exit code tells whether all of them
had a value. A line of input that is not UTF-8 ends the command at once.

With the listing option no equation is looked at: the known names are listed
with their arities.

The log goes to the standard error as well. A command tells it once how it was
asked, whether it keeps fewer decimals than that, and how its calculator was
made; then every equation tells its own journal. What is written of this is for
a logger to say.
-/

import PostfixCalc.Journal
import PostfixCalc.Number.Floating
import PostfixCalc.Number.Rational
import PostfixCalc.Text.Lines
import PostfixCalc.Trace

namespace PostfixCalc.CommandLine

/-- The kinds of number that a command can choose. -/
inductive NumberKind
  | rational
  | floating
  | integer
  deriving DecidableEq, Repr

/-- The name of a kind in structured descriptions. -/
def NumberKind.label : NumberKind → String
  | .rational => "Rationnel"
  | .floating => "Flottant"
  | .integer => "Entier"

/-- What a command asks for. -/
structure Options where
  kind : NumberKind := .rational
  /-- The precision asked for, before it is bounded. -/
  digits : Nat := Precision.standardDigits
  /-- Show rationals as truncated decimals. -/
  decimal : Bool := false
  /-- Show the trace before each value. -/
  trace : Bool := false
  /-- List the known names instead of evaluating. -/
  list : Bool := false
  equations : List String := []
  deriving DecidableEq, Repr

/-- The structured description of options. -/
def Options.describe (options : Options) : String :=
  "Args \x7b equations: " ++ Text.quotedList options.equations ++
    ", backend: " ++ options.kind.label ++
    ", digits: " ++ Decimal.natText options.digits ++
    ", decimal: " ++ toString options.decimal ++
    ", demarche: " ++ toString options.trace ++
    ", liste: " ++ toString options.list ++ " \x7d"

/-- What is written about a record of the log; nothing about one that is left out. -/
abbrev Logger : Type :=
  Record → String

namespace Logger

/-- Nothing is written about any record. -/
def silent : Logger :=
  fun _ => ""

/-- Each record up to a level of detail is written on a line. -/
def upTo (level : Level) : Logger :=
  fun record => if record.level.rank ≤ level.rank then record.line ++ "\n" else ""

end Logger

/-- What a command writes, and whether all went well. -/
structure Output where
  stdout : String
  stderr : String
  success : Bool
  deriving DecidableEq, Repr

namespace Output

/-- Nothing written, and nothing failed. -/
def empty : Output :=
  ⟨"", "", true⟩

/-- One output after another. -/
def append (first second : Output) : Output :=
  ⟨first.stdout ++ second.stdout, first.stderr ++ second.stderr,
    first.success && second.success⟩

instance : Append Output :=
  ⟨append⟩

/-- The exit code. -/
def exitCode (output : Output) : Nat :=
  if output.success then 0 else 1

/-- Lines on the standard output. -/
def printed (lines : List String) : Output :=
  ⟨String.join (lines.map fun line => line ++ "\n"), "", true⟩

/-- A failure with one line on the standard error. -/
def failed (line : String) : Output :=
  ⟨"", line ++ "\n", false⟩

/-- What a logger writes about records, one after the other. -/
def logged (log : Logger) (records : List Record) : Output :=
  ⟨"", String.join (records.map log), true⟩

end Output

/-- The wording of an error for the user of the command line. -/
def errorLine : EvalError → String
  | .emptyEquation => "erreur: équation vide"
  | .unknownElement token =>
      "erreur: « " ++ token.text ++ " » (position " ++ Decimal.natText token.position ++
        ") n’est ni un nombre ni une fonction connue"
  | .missingArguments token =>
      "erreur: pas assez de valeurs sur la pile pour « " ++ token.text ++ " » (position " ++
        Decimal.natText token.position ++ ")"
  | .arithmetic failure => "erreur de calcul: " ++ failure.message
  | .leftoverStack entries =>
      "erreur: il devrait rester une seule valeur, pile finale [" ++
        Text.commaSeparated entries ++ "]"

/-- The error about a line of input that is not UTF-8. -/
def unreadableLine : Output :=
  .failed ("Error: lecture de l’entrée standard\n\nCaused by:\n" ++
    "    stream did not contain valid UTF-8")

section Generic

variable {α : Type} [Number α]

/-- The output for one equation: its journal, and its trace if asked for and
its value, or one error. -/
def evaluateOne (log : Logger) (calculator : Calculator α) (display : α → String)
    (trace : Bool) (equation : String) : Output :=
  .logged log (calculator.evaluationJournal equation) ++
    if trace then
      match calculator.explain equation with
      | .error error => .failed (errorLine error)
      | .ok (value, steps) => .printed [Trace.layout steps] ++ .printed [display value]
    else
      match calculator.evaluate equation with
      | .error error => .failed (errorLine error)
      | .ok value => .printed [display value]

/-- The output for equations, one after the other. -/
def evaluateAll (one : String → Output) : List String → Output
  | [] => .empty
  | equation :: rest => one equation ++ evaluateAll one rest

/-- The output for lines of input: blank lines are skipped, and the first line
without text is the last that is looked at. -/
def evaluateLines (one : String → Output) : List (Option String) → Output
  | [] => .empty
  | none :: _ => unreadableLine
  | some line :: rest =>
      if Text.isBlankText line then evaluateLines one rest
      else one line ++ evaluateLines one rest

/-- The known names with their arities. -/
def listNames (calculator : Calculator α) : Output :=
  .printed (calculator.names.map fun name =>
    let arity := ((calculator.find? name).map Operation.arity).getD 0
    name ++ "\t" ++ Decimal.natText arity)

/-- The output of a command in a new calculator of the given settings. -/
def runOn (log : Logger) (settings : Number.Settings α) (display : α → String)
    (options : Options) (input : List UInt8) : Output :=
  let calculator : Calculator α := .ofSettings settings
  .logged log (Calculator.constructionJournal settings) ++
    if options.list then listNames calculator
    else
      let one := evaluateOne log calculator display options.trace
      if options.equations.isEmpty then evaluateLines one (Text.lines input)
      else evaluateAll one options.equations

end Generic

/-- How rationals are shown: as they are written, or as truncated decimals. -/
def showRational (decimal : Bool) (precision : Precision) (r : Rat) : String :=
  if decimal then Decimal.truncatedText r precision.digits else Rational.render r

/-- What is recorded about a precision when it is asked for: the one that is
kept, if it is another. -/
def precisionRecords (digits : Nat) : List Record :=
  let kept := (Precision.ofNat digits).digits
  if kept = digits then [] else [.bounded kept]

/-- The output of a command, given its standard input and a logger. -/
def run (options : Options) (input : List UInt8) (log : Logger := .silent) : Output :=
  .logged log [.asked options.describe] ++
    match options.kind with
    | .rational =>
        let precision := Precision.ofNat options.digits
        .logged log (precisionRecords options.digits) ++
          runOn log precision (showRational options.decimal precision) options input
    | .floating => runOn log (Number.defaultSettings (α := Float)) Number.render options input
    | .integer => runOn log (Number.defaultSettings (α := Int)) Number.render options input

end PostfixCalc.CommandLine
