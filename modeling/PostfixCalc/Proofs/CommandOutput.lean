/-
# The output of a command, equation by equation

Whether an equation succeeds is read off its evaluation here, the lines of an
input are those that spell it, and the texts of errors are written out; none of
these is said in terms of the code that produces the output.

A logger that writes warnings alone leaves only one record to be seen, the one
about a precision that is not kept. It is written once for a command and not
once for an equation, and even if there is nothing to evaluate.

Main statement: behind this warning a command writes what it would write for
each of its equations alone, one after the other, and its exit code is zero
exactly if all of them have a value. Without equations the lines of the input
that are not blank take their place, up to the first that is not UTF-8.

More detailed loggers are left out: the records of a calculator that is made
would be written once as well.
-/

import PostfixCalc.CommandLine
import PostfixCalc.Proofs.InputLines
import PostfixCalc.Proofs.TraceTruth

namespace PostfixCalc

namespace Vocabulary

variable {α : Type}

/-- Registrations are recorded with the other details. -/
theorem level_of_mem_registrationJournal {vocabulary : Vocabulary α}
    {entries : List (String × Operation α)} {record : Record}
    (member : record ∈ vocabulary.registrationJournal entries) : record.level = .debug := by
  induction entries generalizing vocabulary with
  | nil => cases member
  | cons entry rest ih =>
      rcases List.mem_append.mp member with own | later
      · rcases List.mem_cons.mp own with rfl | again
        · rfl
        · obtain ⟨_, rfl⟩ : (vocabulary.find? entry.1).isSome ∧ record = .replaced := by
            simpa using again
          rfl
      · exact ih later

end Vocabulary

namespace Calculator

variable {α : Type} [Number α]

/-- Making a calculator warns of nothing. -/
theorem level_of_mem_constructionJournal {settings : Number.Settings α} {record : Record}
    (member : record ∈ constructionJournal settings) : record.level ≠ .warn := by
  rcases List.mem_append.mp member with registered | ready
  · rw [Vocabulary.level_of_mem_registrationJournal registered]
    decide
  · rw [List.mem_singleton.mp ready]
    exact nofun

/-- Evaluating an equation warns of nothing. -/
theorem level_of_mem_evaluationJournal {calculator : Calculator α} {equation : String}
    {record : Record} (member : record ∈ calculator.evaluationJournal equation) :
    record.level ≠ .warn := by
  rcases List.mem_append.mp member with token | conclusion
  · rw [calculator.records_run equation] at token
    obtain ⟨step, _, rfl⟩ := List.mem_map.mp token
    rw [Step.level_record]
    decide
  · cases evaluated : (calculator.run equation).value with
    | error error => simp [evaluated] at conclusion
    | ok value =>
        simp only [evaluated, List.mem_singleton] at conclusion
        rw [conclusion]
        exact nofun

end Calculator

namespace CommandLine

namespace Output

theorem append_def (first second : Output) :
    first ++ second = ⟨first.stdout ++ second.stdout, first.stderr ++ second.stderr,
      first.success && second.success⟩ :=
  rfl

theorem empty_append (output : Output) : empty ++ output = output := by
  simp [append_def, empty]

theorem append_empty (output : Output) : output ++ empty = output := by
  simp [append_def, empty]

theorem append_assoc (first second third : Output) :
    first ++ second ++ third = first ++ (second ++ third) := by
  simp [append_def, String.append_assoc, Bool.and_assoc]

theorem exitCode_eq_zero_iff {output : Output} :
    output.exitCode = 0 ↔ output.success = true := by
  simp [exitCode]

theorem exitCode_eq_one_iff {output : Output} :
    output.exitCode = 1 ↔ output.success = false := by
  simp [exitCode]

theorem logged_singleton (log : Logger) (record : Record) :
    logged log [record] = ⟨"", log record, true⟩ := by
  simp [logged, String.join_cons]

/-- Records about which nothing is written leave no trace. -/
theorem logged_eq_empty {log : Logger} {records : List Record}
    (silent : ∀ record ∈ records, log record = "") : logged log records = empty := by
  have nothing : String.join (records.map log) = "" := by
    induction records with
    | nil => rfl
    | cons record rest ih =>
        rw [List.map_cons, String.join_cons, silent record List.mem_cons_self,
          ih fun other member => silent other (List.mem_cons_of_mem _ member), String.append_empty]
  rw [logged, nothing, empty]

theorem logged_silent (records : List Record) : logged .silent records = empty :=
  logged_eq_empty fun _ _ => rfl

end Output

namespace Logger

/-- Nothing is written about records that are not warnings. -/
def WarnsOnly (log : Logger) : Prop :=
  ∀ record : Record, record.level ≠ .warn → log record = ""

theorem warnsOnly_silent : silent.WarnsOnly :=
  fun _ _ => rfl

theorem warnsOnly_upTo_warn : (upTo .warn).WarnsOnly := by
  intro record other
  have detailed : ¬ record.level.rank ≤ Level.rank .warn := by
    cases level : record.level with
    | warn => exact absurd level other
    | debug => decide
    | trace => decide
  exact if_neg detailed

end Logger

/-- The text that tells a user about an error. -/
inductive ErrorText : EvalError → String → Prop
  | empty : ErrorText .emptyEquation "erreur: équation vide"
  | unknown (word : String) (rank : Nat) : ErrorText (.unknownElement ⟨word, rank⟩)
      ("erreur: « " ++ word ++ " » (position " ++ Nat.repr rank ++
        ") n’est ni un nombre ni une fonction connue")
  | missing (word : String) (rank : Nat) : ErrorText (.missingArguments ⟨word, rank⟩)
      ("erreur: pas assez de valeurs sur la pile pour « " ++ word ++ " » (position " ++
        Nat.repr rank ++ ")")
  | arithmetic (failure : Failure) :
      ErrorText (.arithmetic failure) ("erreur de calcul: " ++ failure.message)
  | leftover (entries : List String) : ErrorText (.leftoverStack entries)
      ("erreur: il devrait rester une seule valeur, pile finale [" ++
        ", ".intercalate entries ++ "]")

theorem errorText_errorLine (error : EvalError) : ErrorText error (errorLine error) := by
  cases error with
  | emptyEquation => exact .empty
  | unknownElement token =>
      cases token with
      | mk word rank =>
          have written := ErrorText.unknown word rank
          rw [← Decimal.natText_eq_repr] at written
          exact written
  | missingArguments token =>
      cases token with
      | mk word rank =>
          have written := ErrorText.missing word rank
          rw [← Decimal.natText_eq_repr] at written
          exact written
  | arithmetic failure => exact .arithmetic failure
  | leftoverStack entries => exact .leftover entries

section Generic

variable {α : Type} [Number α] (calculator : Calculator α) (display : α → String) (trace : Bool)

/-- An equation has nothing to warn of. -/
theorem evaluateOne_of_warnsOnly {log : Logger} (warns_only : log.WarnsOnly) (equation : String) :
    evaluateOne log calculator display trace equation =
      evaluateOne .silent calculator display trace equation := by
  rw [evaluateOne, evaluateOne, Output.logged_silent, Output.logged_eq_empty]
  exact fun record member =>
    warns_only record (Calculator.level_of_mem_evaluationJournal member)

theorem evaluateOne_of_error {equation : String} {error : EvalError}
    (fails : (calculator.evaluate equation).map display = .error error) :
    evaluateOne .silent calculator display trace equation = .failed (errorLine error) := by
  rw [evaluateOne, Output.logged_silent, Output.empty_append, calculator.explain_eq]
  cases evaluated : calculator.evaluate equation with
  | error cause =>
      rw [evaluated] at fails
      cases fails
      exact ite_self _
  | ok value =>
      rw [evaluated] at fails
      cases fails

theorem evaluateOne_success_of_ok {equation shown : String}
    (evaluates : (calculator.evaluate equation).map display = .ok shown) :
    (evaluateOne .silent calculator display trace equation).success = true := by
  rw [evaluateOne, Output.logged_silent, Output.empty_append, calculator.explain_eq]
  cases evaluated : calculator.evaluate equation with
  | error cause =>
      rw [evaluated] at evaluates
      cases evaluates
  | ok value => cases trace <;> rfl

/-- A new calculator has nothing to warn of, and neither has what it does. -/
theorem runOn_of_warnsOnly {log : Logger} (warns_only : log.WarnsOnly)
    (settings : Number.Settings α) {options : Options} (evaluates : options.list = false)
    (input : List UInt8) :
    runOn log settings display options input =
      if options.equations.isEmpty then
        evaluateLines (evaluateOne .silent (.ofSettings settings) display options.trace)
          (Text.lines input)
      else
        evaluateAll (evaluateOne .silent (.ofSettings settings) display options.trace)
          options.equations := by
  have made : Output.logged log (Calculator.constructionJournal settings) = .empty :=
    Output.logged_eq_empty fun record member =>
      warns_only record (Calculator.level_of_mem_constructionJournal member)
  have quiet : evaluateOne log (.ofSettings settings) display options.trace =
      evaluateOne .silent (.ofSettings settings) display options.trace :=
    funext (evaluateOne_of_warnsOnly _ display options.trace warns_only)
  simp only [runOn, made, Output.empty_append, evaluates, quiet, Bool.false_eq_true, if_false]

end Generic

section Sequence

variable (one : String → Output)

/-- Equations write one after the other, and succeed if each of them does. -/
theorem evaluateAll_eq (equations : List String) :
    evaluateAll one equations =
      ⟨String.join (equations.map fun equation => (one equation).stdout),
        String.join (equations.map fun equation => (one equation).stderr),
        equations.all fun equation => (one equation).success⟩ := by
  induction equations with
  | nil => rfl
  | cons equation rest rest_eq =>
      simp only [evaluateAll, rest_eq, Output.append_def, List.map_cons, String.join_cons,
        List.all_cons]

theorem evaluateAll_singleton (equation : String) :
    evaluateAll one [equation] = one equation :=
  Output.append_empty (one equation)

/-- Lines with a text are evaluated as the equations among them that are not
blank, and then what follows them is looked at. -/
theorem evaluateLines_append (texts : List String) (following : List (Option String)) :
    evaluateLines one (texts.map some ++ following) =
      evaluateAll one (texts.filter fun text => !Text.isBlankText text) ++
        evaluateLines one following := by
  induction texts with
  | nil => exact (Output.empty_append _).symm
  | cons text rest rest_eq =>
      rw [List.map_cons, List.cons_append, evaluateLines, rest_eq]
      cases blank : Text.isBlankText text <;>
        simp [blank, evaluateAll, Output.append_assoc]

end Sequence

section Options

/-- What an equation comes to under the options: its value as it is shown, or
its error. -/
def outcome (options : Options) (equation : String) : Except EvalError String :=
  match options.kind with
  | .rational =>
      let precision := Precision.ofNat options.digits
      ((Calculator.ofSettings precision).evaluate equation).map
        (showRational options.decimal precision)
  | .floating => ((.standard : Calculator Float).evaluate equation).map Number.render
  | .integer => ((.standard : Calculator Int).evaluate equation).map Number.render

/-- What a logger writes about the precision: a warning if rationals are asked
for with more decimals than are kept. -/
def warning (log : Logger) (options : Options) : String :=
  if options.kind = .rational ∧ greatestPrecision < options.digits then
    log (.bounded greatestPrecision)
  else ""

/-- The output of a command for one equation alone. -/
def runAlone (log : Logger) (options : Options) (equation : String) : Output :=
  run { options with equations := [equation] } [] log

/-- The output of a command for those of some texts that are not blank, which
is the warning if there are none. -/
def runTexts (log : Logger) (options : Options) (texts : List String) : Output :=
  match texts.filter fun text => !Text.isBlankText text with
  | [] => ⟨"", warning log options, true⟩
  | equation :: rest => run { options with equations := equation :: rest } [] log

/-- The output for one equation under the options. -/
def single (options : Options) : String → Output :=
  match options.kind with
  | .rational =>
      let precision := Precision.ofNat options.digits
      evaluateOne .silent (.ofSettings precision) (showRational options.decimal precision)
        options.trace
  | .floating =>
      evaluateOne .silent (.standard : Calculator Float) Number.render options.trace
  | .integer => evaluateOne .silent (.standard : Calculator Int) Number.render options.trace

variable {options : Options}

theorem single_of_error {equation : String} {error : EvalError}
    (fails : outcome options equation = .error error) :
    single options equation = .failed (errorLine error) := by
  unfold outcome at fails
  unfold single
  cases kind : options.kind <;> simp only [kind] at fails ⊢ <;>
    exact evaluateOne_of_error _ _ _ fails

theorem single_success_of_ok {equation shown : String}
    (evaluates : outcome options equation = .ok shown) :
    (single options equation).success = true := by
  unfold outcome at evaluates
  unfold single
  cases kind : options.kind <;> simp only [kind] at evaluates ⊢ <;>
    exact evaluateOne_success_of_ok _ _ _ evaluates

/-- The lines that are skipped are those that would fail as empty equations. -/
theorem outcome_eq_emptyEquation_iff {equation : String} :
    outcome options equation = .error .emptyEquation ↔ Text.isBlankText equation = true := by
  have map_error {α : Type} (display : α → String) (result : Except EvalError α) :
      result.map display = .error .emptyEquation ↔ result = .error .emptyEquation := by
    cases result <;> simp [Except.map]
  unfold outcome
  cases options.kind <;>
    simp only [map_error, Calculator.evaluate_eq_emptyEquation_iff, Token.ofEquation_eq_nil_iff]

theorem evaluateAll_single_success_iff {equations : List String} :
    (evaluateAll (single options) equations).success = true ↔
      ∀ equation ∈ equations, ∃ shown, outcome options equation = .ok shown := by
  simp only [evaluateAll_eq, List.all_eq_true]
  refine forall₂_congr fun equation _ => ?_
  cases result : outcome options equation with
  | error error => simp [single_of_error result, Output.failed]
  | ok shown => simp [single_success_of_ok result]

theorem evaluateAll_single_failure_iff {equations : List String} :
    (evaluateAll (single options) equations).success = false ↔
      ∃ equation ∈ equations, ∃ error, outcome options equation = .error error := by
  rw [← Bool.not_eq_true, evaluateAll_single_success_iff]
  push Not
  refine exists_congr fun equation => and_congr_right fun _ => ?_
  cases outcome options equation <;> simp

/-- Of the precision a logger is told what the warning says. -/
theorem logged_precisionRecords (log : Logger) (digits : Nat) :
    Output.logged log (precisionRecords digits) =
      ⟨"", if greatestPrecision < digits then log (.bounded greatestPrecision) else "", true⟩ := by
  have kept : (Precision.ofNat digits).digits = min digits greatestPrecision := rfl
  rw [precisionRecords, kept]
  by_cases bounded : greatestPrecision < digits
  · simp only [Nat.min_eq_right bounded.le, Nat.ne_of_lt bounded, bounded, if_true, if_false,
      Output.logged_singleton]
  · simp only [Nat.min_eq_left (Nat.not_lt.mp bounded), bounded, if_true, if_false]
    rfl

/-- A command writes its warning, and then what its equations or the lines of
its input are worth without any log. -/
theorem run_eq {log : Logger} (warns_only : log.WarnsOnly) (evaluates : options.list = false)
    (input : List UInt8) :
    run options input log = ⟨"", warning log options, true⟩ ++
      if options.equations.isEmpty then evaluateLines (single options) (Text.lines input)
      else evaluateAll (single options) options.equations := by
  have asked : Output.logged log [.asked options.describe] = .empty :=
    Output.logged_eq_empty fun record member => warns_only record (by
      rw [List.mem_singleton.mp member]
      exact nofun)
  rw [run, asked, Output.empty_append]
  cases kind : options.kind with
  | rational =>
      simp only [runOn_of_warnsOnly _ warns_only _ evaluates, logged_precisionRecords, warning,
        single, kind, true_and]
  | floating =>
      simp only [runOn_of_warnsOnly _ warns_only _ evaluates, warning, single, kind,
        reduceCtorEq, false_and, if_false]
      exact (Output.empty_append _).symm
  | integer =>
      simp only [runOn_of_warnsOnly _ warns_only _ evaluates, warning, single, kind,
        reduceCtorEq, false_and, if_false]
      exact (Output.empty_append _).symm

section Filtered

variable {log : Logger} (warns_only : log.WarnsOnly) (evaluates : options.list = false)

include warns_only evaluates

theorem run_of_equations (asked : options.equations ≠ []) (input : List UInt8) :
    run options input log =
      ⟨"", warning log options, true⟩ ++ evaluateAll (single options) options.equations := by
  rw [run_eq warns_only evaluates, if_neg (by simpa using asked)]

theorem run_of_input (unasked : options.equations = []) (input : List UInt8) :
    run options input log =
      ⟨"", warning log options, true⟩ ++ evaluateLines (single options) (Text.lines input) := by
  rw [run_eq warns_only evaluates, if_pos (by simpa using unasked)]

theorem runAlone_eq_single (equation : String) :
    runAlone log options equation = ⟨"", warning log options, true⟩ ++ single options equation := by
  rw [runAlone, run_of_equations warns_only (by exact evaluates) (List.cons_ne_nil _ _),
    ← evaluateAll_singleton (single options) equation]
  rfl

theorem runTexts_eq_evaluateAll (texts : List String) :
    runTexts log options texts = ⟨"", warning log options, true⟩ ++
      evaluateAll (single options) (texts.filter fun text => !Text.isBlankText text) := by
  rw [runTexts]
  split
  · next none_left =>
    rw [none_left, evaluateAll, Output.append_empty]
  · next equation rest left =>
    rw [left, run_of_equations warns_only (by exact evaluates) (List.cons_ne_nil _ _)]
    rfl

end Filtered

/-- Without a log the warning is missing. -/
theorem runAlone_silent (evaluates : options.list = false) (equation : String) :
    runAlone .silent options equation = single options equation := by
  have nothing : warning .silent options = "" := ite_self _
  rw [runAlone_eq_single Logger.warnsOnly_silent evaluates, nothing]
  exact Output.empty_append _

/-- What a command without the listing option writes, and how it ends, if only
warnings are logged. Any equation alone writes the warning, if there is one,
and what it writes without a log. An equation without a value writes one line
of error and nothing else, whether its trace is asked for or not.

Several equations write on the standard output what each of them alone does, one
after the other, and on the standard error the warning once and then what each
alone does without a log. The exit code is zero if all of them have a value and
one if some has none.

Without equations the texts of the lines that are not blank are run instead; the
others are the ones that would fail as empty equations. A line without a text
is reported behind the output of those before it and ends the command, whatever
follows. -/
theorem run_eq_each_alone {log : Logger} (warns_only : log.WarnsOnly)
    (evaluates : options.list = false) :
    (∀ equation, runAlone log options equation =
      ⟨"", warning log options, true⟩ ++ runAlone .silent options equation) ∧
    (∀ equation error, outcome options equation = .error error →
      ∃ text, ErrorText error text ∧
        runAlone .silent options equation = ⟨"", text ++ "\n", false⟩) ∧
    (options.equations ≠ [] → ∀ input,
      (run options input log).stdout =
        String.join (options.equations.map fun equation =>
          (runAlone log options equation).stdout) ∧
      (run options input log).stderr = warning log options ++
        String.join (options.equations.map fun equation =>
          (runAlone .silent options equation).stderr) ∧
      (warning log options = "" → (run options input log).stderr =
        String.join (options.equations.map fun equation =>
          (runAlone log options equation).stderr)) ∧
      ((run options input log).exitCode = 0 ↔
        ∀ equation ∈ options.equations, ∃ shown, outcome options equation = .ok shown) ∧
      ((run options input log).exitCode = 1 ↔
        ∃ equation ∈ options.equations, ∃ error, outcome options equation = .error error)) ∧
    (∀ line, Text.isBlankText line = true ↔ outcome options line = .error .emptyEquation) ∧
    (options.equations = [] → ∀ input,
      (∀ texts, Text.LinesOf input (texts.map Text.utf8) →
        run options input log = runTexts log options texts) ∧
      (∀ before unreadable after,
        Text.LinesOf input (before.map Text.utf8 ++ unreadable :: after) →
        (∀ text, Text.utf8 text ≠ unreadable) →
        (run options input log).stdout = (runTexts log options before).stdout ∧
        (run options input log).stderr = (runTexts log options before).stderr ++
          "Error: lecture de l’entrée standard\n\nCaused by:\n    stream did not contain valid UTF-8\n" ∧
        (run options input log).exitCode = 1)) := by
  refine ⟨fun equation => ?_, fun equation error fails => ?_, fun asked input => ?_,
    fun line => outcome_eq_emptyEquation_iff.symm, fun unasked input =>
    ⟨fun texts spelled => ?_, fun before unreadable after spelled textless => ?_⟩⟩
  · rw [runAlone_eq_single warns_only evaluates, runAlone_silent evaluates]
  · refine ⟨_, errorText_errorLine error, ?_⟩
    rw [runAlone_silent evaluates, single_of_error fails]
    rfl
  · simp only [runAlone_silent evaluates, runAlone_eq_single warns_only evaluates,
      run_of_equations warns_only evaluates asked, Output.append_def, String.empty_append,
      Bool.true_and, Output.exitCode_eq_zero_iff, Output.exitCode_eq_one_iff]
    refine ⟨?_, ?_, fun nothing => ?_, evaluateAll_single_success_iff,
      evaluateAll_single_failure_iff⟩
    · rw [evaluateAll_eq]
    · rw [evaluateAll_eq]
    · rw [nothing, String.empty_append, evaluateAll_eq]
      simp only [String.empty_append]
  · rw [run_of_input warns_only evaluates unasked, Text.lines_of_texts spelled,
      runTexts_eq_evaluateAll warns_only evaluates, ← List.append_nil (texts.map some),
      evaluateLines_append, evaluateLines, Output.append_empty]
  · rw [run_of_input warns_only evaluates unasked, Text.lines_of_unreadable spelled textless,
      runTexts_eq_evaluateAll warns_only evaluates, evaluateLines_append, evaluateLines,
      ← Output.append_assoc, Output.exitCode_eq_one_iff]
    exact ⟨String.append_empty, rfl, Bool.and_false _⟩

/-- A failing equation before another with and without the warning, three lines
of which one is blank or one has no text, and an input without a line. -/
theorem run_of_failing_quotient :
    (Logger.upTo .warn).WarnsOnly ∧
    (outcome { kind := .integer, trace := true } "1 0 /" = .error (.arithmetic .divisionByZero) ∧
      runAlone .silent { kind := .integer, trace := true } "1 0 /" =
        ⟨"", "erreur de calcul: division par zéro\n", false⟩) ∧
    ((run { kind := .integer, equations := ["1 0 /", "2 3 +"] } [] (.upTo .warn)).stdout = "5\n" ∧
      (run { kind := .integer, equations := ["1 0 /", "2 3 +"] } [] (.upTo .warn)).stderr =
        "erreur de calcul: division par zéro\n" ∧
      (run { kind := .integer, equations := ["1 0 /", "2 3 +"] } [] (.upTo .warn)).exitCode = 1) ∧
    (run { digits := 300, equations := ["1", "x"] } [] (.upTo .warn)).stderr =
      "WARN précision bornée à 200 décimales\n" ++
        "erreur: « x » (position 1) n’est ni un nombre ni une fonction connue\n" ∧
    (Text.LinesOf [50, 13, 10, 32, 10, 55] (["2", " ", "7"].map Text.utf8) ∧
      run { kind := .integer } [50, 13, 10, 32, 10, 55] (.upTo .warn) = ⟨"2\n7\n", "", true⟩) ∧
    (Text.LinesOf [50, 10, 255, 10, 55] (["2"].map Text.utf8 ++ [255] :: [[55]]) ∧
      (∀ text, Text.utf8 text ≠ [255]) ∧
      (run { kind := .integer } [50, 10, 255, 10, 55] (.upTo .warn)).stdout = "2\n" ∧
      (run { kind := .integer } [50, 10, 255, 10, 55] (.upTo .warn)).stderr =
        "Error: lecture de l’entrée standard\n\nCaused by:\n    stream did not contain valid UTF-8\n") ∧
    (Text.LinesOf [] ([].map Text.utf8) ∧
      run { digits := 300 } [] (.upTo .warn) =
        ⟨"", "WARN précision bornée à 200 décimales\n", true⟩) := by
  have filtered := Logger.warnsOnly_upTo_warn
  have fails (trace : Bool) : outcome { kind := .integer, trace := trace } "1 0 /" =
      .error (.arithmetic .divisionByZero) :=
    rfl
  have texts : Text.LinesOf [50, 13, 10, 32, 10, 55] (["2", " ", "7"].map Text.utf8) :=
    Text.linesOf_iff.mpr (by decide +kernel)
  have cut_short : Text.LinesOf [50, 10, 255, 10, 55] (["2"].map Text.utf8 ++ [255] :: [[55]]) :=
    Text.linesOf_iff.mpr (by decide +kernel)
  have textless : ∀ text, Text.utf8 text ≠ [255] :=
    Text.decodeUtf8?_eq_none_iff.mp (by decide +kernel)
  obtain ⟨_, alone, _⟩ :=
    @run_eq_each_alone { kind := .integer, trace := true } _ filtered rfl
  obtain ⟨_, _, both, _⟩ :=
    @run_eq_each_alone { kind := .integer, equations := ["1 0 /", "2 3 +"] } _ filtered rfl
  obtain ⟨_, _, warned, _⟩ :=
    @run_eq_each_alone { digits := 300, equations := ["1", "x"] } _ filtered rfl
  obtain ⟨_, _, _, _, by_lines⟩ := @run_eq_each_alone { kind := .integer } _ filtered rfl
  obtain ⟨_, _, _, _, by_no_line⟩ := @run_eq_each_alone { digits := 300 } _ filtered rfl
  obtain ⟨text, told, alone_eq⟩ := alone _ _ (fails true)
  obtain ⟨stdout_eq, _, stderr_eq, _, failure_iff⟩ := both (List.cons_ne_nil _ _) []
  obtain ⟨_, warned_eq, _⟩ := warned (List.cons_ne_nil _ _) []
  obtain ⟨cut_stdout, cut_stderr, _⟩ := (by_lines rfl _).2 _ _ _ cut_short textless
  refine ⟨filtered, ⟨fails true, ?_⟩, ⟨stdout_eq.trans (by decide +kernel),
    (stderr_eq rfl).trans (by decide +kernel), ?_⟩, warned_eq.trans (by decide +kernel),
    ⟨texts, ?_⟩, ⟨cut_short, textless, cut_stdout.trans (by decide +kernel),
      cut_stderr.trans (by decide +kernel)⟩, .nothing, ?_⟩
  · cases told
    exact alone_eq
  · exact failure_iff.mpr ⟨"1 0 /", List.mem_cons_self, _, fails false⟩
  · exact ((by_lines rfl _).1 _ texts).trans (by decide +kernel)
  · exact ((by_no_line rfl _).1 [] .nothing).trans (by decide +kernel)

/-- The warning is not what the equations write: two equations with 300 decimals
write it once, each of them alone writes it as well, and so does an empty input. -/
theorem warning_written_once :
    ¬ ((run { digits := 300, equations := ["1", "2"] } [] (.upTo .warn)).stderr =
      String.join (["1", "2"].map fun equation =>
        (runAlone (.upTo .warn) { digits := 300, equations := ["1", "2"] } equation).stderr)) ∧
    (run { digits := 300, equations := ["1", "2"] } [] (.upTo .warn)).stderr =
      "WARN précision bornée à 200 décimales\n" ∧
    ¬ (run { digits := 300 } [] (.upTo .warn)).stderr = "" := by
  decide +kernel

end Options

end CommandLine

end PostfixCalc
