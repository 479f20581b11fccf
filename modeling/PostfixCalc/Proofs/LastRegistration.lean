/-
# The last registration wins

A session is carried out a second time without vocabularies. In place of each
one it keeps a history, the bare list of everything that was registered; a
name means the last registration under it, nothing is replaced, and a copy
starts with the history of its source.

Both sessions go through the same states: at every moment a vocabulary is what
its history makes of it. Look-ups, names and sizes of vocabularies and of
calculators are therefore decided by their own histories, and a step leaves
every vocabulary but the addressed one as it was.

An operation that evaluates an equation is registered with the calculator of
that moment inside; histories record it as it is then.
-/

import Mathlib.Data.List.Dedup
import Mathlib.Data.String.Basic
import PostfixCalc.Session.Calculators
import PostfixCalc.Session.Vocabularies

namespace PostfixCalc

/-- Strings are compared by the first code point in which they differ. -/
theorem Vocabulary.names_increasing {α : Type} (vocabulary : Vocabulary α) :
    vocabulary.names.Pairwise (· < ·) :=
  Std.TreeMap.ordered_keys.imp fun ordered => compare_lt_iff_lt.mp ordered

namespace Session

/-- Everything that was registered, from first to last. -/
abbrev History (α : Type) : Type :=
  List (String × Operation α)

variable {α : Type}

namespace History

/-! ## Histories -/

/-- The operation that was registered last under a name. -/
def last? (history : History α) (name : String) : Option (Operation α) :=
  history.reverse.lookup name

/-- Something was registered under the name. -/
def Knows (history : History α) (name : String) : Prop :=
  ∃ operation, (name, operation) ∈ history

/-- The number of different names. -/
def nameCount (history : History α) : Nat :=
  (history.map Prod.fst).dedup.length

/-- The vocabulary in which everything was registered in turn. -/
def vocabulary (history : History α) : Vocabulary α :=
  Vocabulary.empty.registerAll history

/-- No later registration under the name follows the last one. -/
theorem last?_eq_some_iff (history : History α) (name : String) (operation : Operation α) :
    history.last? name = some operation ↔
      ∃ earlier later, history = earlier ++ (name, operation) :: later ∧
        ∀ entry ∈ later, entry.1 ≠ name := by
  rw [last?, List.lookup_eq_some_iff]
  constructor
  · rintro ⟨later, earlier, reversed, others⟩
    refine ⟨earlier.reverse, later.reverse, ?_, fun entry among => ?_⟩
    · rw [← List.reverse_reverse history, reversed]
      simp
    · exact (bne_iff_ne.mp (others entry (List.mem_reverse.mp among))).symm
  · rintro ⟨earlier, later, rfl, others⟩
    refine ⟨later.reverse, earlier.reverse, by simp, fun entry among => ?_⟩
    exact bne_iff_ne.mpr (others entry (List.mem_reverse.mp among)).symm

theorem isSome_last?_iff (history : History α) (name : String) :
    (history.last? name).isSome ↔ history.Knows name := by
  rw [last?, List.lookup_isSome_iff]
  constructor
  · rintro ⟨⟨known, operation⟩, among, same⟩
    exact ⟨operation, by simpa [beq_iff_eq.mp same] using among⟩
  · rintro ⟨operation, among⟩
    exact ⟨(name, operation), by simpa using among, by simp⟩

end History

/-! ## What a vocabulary shows -/

/-- A vocabulary shows a history: the last registration under each name, the
names in the order of their code points, and their number. -/
structure Shows (vocabulary : Vocabulary α) (history : History α) : Prop where
  find : ∀ name, vocabulary.find? name = history.last? name
  increasing : vocabulary.names.Pairwise (· < ·)
  names : ∀ name, name ∈ vocabulary.names ↔ history.Knows name
  size : vocabulary.size = history.nameCount

/-- Look-ups decide everything else that a vocabulary shows. -/
theorem shows_of_find {vocabulary : Vocabulary α} {history : History α}
    (find : ∀ name, vocabulary.find? name = history.last? name) : Shows vocabulary history := by
  have names (name : String) : name ∈ vocabulary.names ↔ history.Knows name := by
    rw [Vocabulary.mem_names_iff, find, History.isSome_last?_iff]
  refine ⟨find, vocabulary.names_increasing, names, ?_⟩
  have nodup : vocabulary.names.Nodup := vocabulary.names_increasing.imp ne_of_lt
  have same : vocabulary.names.Perm (history.map Prod.fst).dedup := by
    rw [List.perm_ext_iff_of_nodup nodup (List.nodup_dedup _)]
    intro name
    rw [names, List.mem_dedup]
    simp [History.Knows]
  rw [← vocabulary.length_names, same.length_eq, History.nameCount]

theorem shows_vocabulary (history : History α) : Shows history.vocabulary history :=
  shows_of_find fun name => by
    rw [History.vocabulary, Vocabulary.find?_registerAll, Vocabulary.find?_empty, Option.or_none,
      History.last?]

/-! ## Sessions on histories -/

namespace History

/-- Carry out a request on the given history of a list, at its index. -/
def perform (histories : List (History α)) (index : Nat) (history : History α) :
    Vocabularies.Request α → List (History α) × Unit
  | .register name operation => (histories.set index (history ++ [(name, operation)]), ())
  | .copy => (histories ++ [history], ())
  | .find _ | .apply _ _ | .listNames | .describe | .isEmpty => (histories, ())

/-- The histories after requests in order, until an index does not exist. -/
def after (histories : List (History α)) (requests : List (Nat × Vocabularies.Request α)) :
    List (History α) :=
  Performer.after perform histories requests

end History

section Logs

variable [Number α]

/-- What a command registers in the calculator that it addresses, if it does. -/
def Command.entry? (calculator : Calculator α) : Command α → Option (String × Operation α)
  | .register name arity body => some (name, body.operation calculator arity)
  | .registerOperation name operation => some (name, operation)
  | .alias name target => (calculator.find? target).map fun operation => (name, operation)
  | _ => none

/-- A calculator without its vocabulary: the settings and the history, which
begins with the initial operations. -/
structure Log (α : Type) [Number α] where
  settings : Number.Settings α
  history : History α

namespace Log

/-- The history of a new calculator. -/
def ofSettings (settings : Number.Settings α) : Log α :=
  ⟨settings, Calculator.initialOperations settings⟩

/-- The calculator in which everything was registered in turn. -/
def calculator (log : Log α) : Calculator α :=
  ⟨log.settings, log.history.vocabulary⟩

/-- The log with one more registration. -/
def record (log : Log α) (entry : String × Operation α) : Log α :=
  { log with history := log.history ++ [entry] }

/-- Carry out a command on the given log of a list, at its index. -/
def perform (logs : List (Log α)) (index : Nat) (log : Log α) (command : Command α) :
    List (Log α) × Unit :=
  match command.entry? log.calculator with
  | some entry => (logs.set index (log.record entry), ())
  | none =>
      match command with
      | .copy => (logs ++ [log], ())
      | .makeStandard => (logs ++ [ofSettings Number.defaultSettings], ())
      | _ => (logs, ())

/-- The logs after commands in order, until an index does not exist. -/
def after (logs : List (Log α)) (commands : List (Nat × Command α)) : List (Log α) :=
  Performer.after perform logs commands

end Log

end Logs

/-! ## Both sessions go through the same states -/

theorem History.vocabulary_append (history : History α) (name : String)
    (operation : Operation α) :
    History.vocabulary (history ++ [(name, operation)]) =
      history.vocabulary.register name operation :=
  Vocabulary.registerAll_append _ _ _

theorem perform_vocabulary (histories : List (History α)) (index : Nat) (history : History α)
    (request : Vocabularies.Request α) :
    (Vocabularies.perform (histories.map History.vocabulary) index history.vocabulary request).1 =
      (History.perform histories index history request).1.map History.vocabulary := by
  cases request with
  | register name operation =>
      show _ = (histories.set index (history ++ [(name, operation)])).map History.vocabulary
      rw [List.map_set, History.vocabulary_append]
      rfl
  | copy => simp [Vocabularies.perform, History.perform]
  | find | apply | listNames | describe | isEmpty => rfl

theorem after_vocabulary (histories : List (History α))
    (requests : List (Nat × Vocabularies.Request α)) :
    Vocabularies.after (histories.map History.vocabulary) requests =
      (History.after histories requests).map History.vocabulary :=
  Performer.after_map History.vocabulary perform_vocabulary histories requests

/-- Empty vocabularies are those of empty histories. -/
theorem after_empty (count : Nat) (requests : List (Nat × Vocabularies.Request α)) :
    Vocabularies.after (List.replicate count .empty) requests =
      (History.after (List.replicate count []) requests).map History.vocabulary := by
  rw [← after_vocabulary, List.map_replicate]
  rfl

section Calculators

variable [Number α]

theorem Log.calculator_record (log : Log α) (name : String) (operation : Operation α) :
    (log.record (name, operation)).calculator = log.calculator.register name operation := by
  rw [Log.calculator, Log.record, History.vocabulary_append]
  rfl

theorem perform_calculator (logs : List (Log α)) (index : Nat) (log : Log α)
    (command : Command α) :
    (perform (logs.map Log.calculator) index log.calculator command).1 =
      (Log.perform logs index log command).1.map Log.calculator := by
  have registered (name : String) (operation : Operation α) :
      (logs.map Log.calculator).set index (log.calculator.register name operation) =
        (logs.set index (log.record (name, operation))).map Log.calculator := by
    rw [List.map_set, Log.calculator_record]
  cases command with
  | register name arity body => exact registered name _
  | registerOperation name operation => exact registered name operation
  | «alias» name target =>
      cases found : log.calculator.find? target with
      | none => simp [perform, Log.perform, Command.entry?, found]
      | some operation =>
          simpa [perform, Log.perform, Command.entry?, found] using registered name operation
  | copy =>
      show logs.map Log.calculator ++ [log.calculator] = (logs ++ [log]).map Log.calculator
      rw [List.map_append]
      rfl
  | makeStandard =>
      show logs.map Log.calculator ++ [Calculator.standard] = (logs ++ [_]).map Log.calculator
      rw [List.map_append]
      rfl
  | evaluate | explain | read | find | listNames | describe | describeSettings => rfl

theorem after_calculator (logs : List (Log α)) (commands : List (Nat × Command α)) :
    after (logs.map Log.calculator) commands = (Log.after logs commands).map Log.calculator :=
  Performer.after_map Log.calculator perform_calculator logs commands

/-- New calculators are those of new logs. -/
theorem after_ofSettings (settings : List (Number.Settings α))
    (commands : List (Nat × Command α)) :
    after (settings.map .ofSettings) commands =
      (Log.after (settings.map .ofSettings) commands).map Log.calculator := by
  rw [← after_calculator, List.map_map]
  rfl

end Calculators

/-! ## What a step leaves alone -/

/-- A step at an index changes at most the addressed vocabulary, and this one
by at most a registration. -/
structure ChangesOnly (before after : List (Vocabulary α)) (index : Nat)
    (entry : Option (String × Operation α)) : Prop where
  others : ∀ other < before.length, other ≠ index → after[other]? = before[other]?
  addressed : ∀ vocabulary, before[index]? = some vocabulary → ∃ changed,
    after[index]? = some changed ∧
    (entry = none → changed = vocabulary) ∧
    ∀ name operation, entry = some (name, operation) →
      changed.size = if (vocabulary.find? name).isSome then vocabulary.size else vocabulary.size + 1

namespace ChangesOnly

variable {vocabularies : List (Vocabulary α)} {index : Nat}

theorem nothing : ChangesOnly vocabularies vocabularies index none where
  others _ _ _ := rfl
  addressed vocabulary present := ⟨vocabulary, present, fun _ => rfl, nofun⟩

theorem appended (vocabulary : Vocabulary α) :
    ChangesOnly vocabularies (vocabularies ++ [vocabulary]) index none where
  others _ within _ := List.getElem?_append_left within
  addressed addressed present := by
    have within : index < vocabularies.length := (List.getElem?_eq_some_iff.mp present).1
    exact ⟨addressed, by rw [List.getElem?_append_left within, present], fun _ => rfl, nofun⟩

theorem registered {vocabulary : Vocabulary α} (present : vocabularies[index]? = some vocabulary)
    (name : String) (operation : Operation α) :
    ChangesOnly vocabularies (vocabularies.set index (vocabulary.register name operation)) index
      (some (name, operation)) where
  others _ _ other := List.getElem?_set_ne other.symm
  addressed addressed same := by
    have within : index < vocabularies.length := (List.getElem?_eq_some_iff.mp present).1
    refine ⟨vocabulary.register name operation, List.getElem?_set_self within, nofun, ?_⟩
    rintro _ _ ⟨⟩
    rw [present] at same
    cases same
    exact vocabulary.size_register name operation

end ChangesOnly

/-- What a request registers, if it does. -/
def Vocabularies.Request.entry? : Vocabularies.Request α → Option (String × Operation α)
  | .register name operation => some (name, operation)
  | _ => none

theorem Vocabularies.changesOnly_perform {vocabularies : List (Vocabulary α)} {index : Nat}
    {vocabulary : Vocabulary α} (present : vocabularies[index]? = some vocabulary)
    (request : Vocabularies.Request α) :
    ChangesOnly vocabularies (Vocabularies.perform vocabularies index vocabulary request).1 index
      request.entry? := by
  cases request with
  | register name operation => exact .registered present name operation
  | copy => exact .appended vocabulary
  | find | apply | listNames | describe | isEmpty => exact .nothing

theorem changesOnly_perform [Number α] {calculators : List (Calculator α)} {index : Nat}
    {calculator : Calculator α} (present : calculators[index]? = some calculator)
    (command : Command α) :
    ChangesOnly (calculators.map Calculator.vocabulary)
      ((perform calculators index calculator command).1.map Calculator.vocabulary) index
      (command.entry? calculator) := by
  have present_vocabulary : (calculators.map Calculator.vocabulary)[index]? =
      some calculator.vocabulary := by
    rw [List.getElem?_map, present]
    rfl
  have registered (name : String) (operation : Operation α) :
      ChangesOnly (calculators.map Calculator.vocabulary)
        ((calculators.set index (calculator.register name operation)).map Calculator.vocabulary)
        index (some (name, operation)) := by
    rw [List.map_set]
    exact .registered present_vocabulary name operation
  have appended (made : Calculator α) :
      ChangesOnly (calculators.map Calculator.vocabulary)
        ((calculators ++ [made]).map Calculator.vocabulary) index none := by
    rw [List.map_append]
    exact .appended made.vocabulary
  cases command with
  | register name arity body => exact registered name _
  | registerOperation name operation => exact registered name operation
  | «alias» name target =>
      cases found : calculator.find? target with
      | none => simpa [perform, Command.entry?, found] using ChangesOnly.nothing
      | some operation => simpa [perform, Command.entry?, found] using registered name operation
  | copy => exact appended calculator
  | makeStandard => exact appended .standard
  | evaluate | explain | read | find | listNames | describe | describeSettings => exact .nothing

/-! ## Responses -/

/-- The responses to a request that a history allows. -/
def History.Allows (history : History α) :
    Vocabularies.Request α → Vocabularies.Response α → Prop
  | .register name _, response => response = .registered (history.last? name)
  | .copy, response => ∃ index, response = .appended index
  | .find name, response => response = .found (history.last? name)
  | .apply name arguments, response =>
      response = .applied ((history.last? name).map fun operation => operation.apply arguments)
  | .listNames, response => ∃ names, response = .names names ∧ names.Pairwise (· < ·) ∧
      ∀ name, name ∈ names ↔ history.Knows name
  | .describe, response => ∃ text, response = .description text
  | .isEmpty, response => response = .emptiness history.isEmpty

theorem Shows.isEmpty {vocabulary : Vocabulary α} {history : History α}
    (shown : Shows vocabulary history) : vocabulary.isEmpty = history.isEmpty := by
  rw [vocabulary.isEmpty_eq_size_eq_zero, shown.size, History.nameCount, Bool.eq_iff_iff]
  simp [List.dedup_eq_nil]

theorem Shows.allows {vocabulary : Vocabulary α} {history : History α}
    (shown : Shows vocabulary history) (vocabularies : List (Vocabulary α)) (index : Nat)
    (request : Vocabularies.Request α) :
    history.Allows request
      (Vocabularies.perform vocabularies index vocabulary request).2.reply := by
  cases request with
  | register name operation => exact congrArg _ (shown.find name)
  | copy => exact ⟨_, rfl⟩
  | find name => exact congrArg _ (shown.find name)
  | apply name arguments => exact congrArg _ (congrArg _ (shown.find name))
  | listNames => exact ⟨_, rfl, shown.increasing, shown.names⟩
  | describe => exact ⟨_, rfl⟩
  | isEmpty => exact congrArg _ shown.isEmpty

/-! ## The theorem -/

/-- A session on vocabularies that starts with empty ones, or on calculators
that starts with new ones, shows at every index the history of this index
alone; a further step answers from that history and changes only there, by one
registration at most. -/
theorem last_registration_wins (α β : Type) [Number β] :
    (∀ (count : Nat) (requests : List (Nat × Vocabularies.Request α)) reached index vocabulary,
      Vocabularies.after (List.replicate count .empty) requests = reached →
      reached[index]? = some vocabulary →
      ∃ history, (History.after (List.replicate count []) requests)[index]? = some history ∧
        Shows vocabulary history ∧
        ∀ request,
          history.Allows request
            (Vocabularies.perform reached index vocabulary request).2.reply ∧
          ChangesOnly reached (Vocabularies.perform reached index vocabulary request).1 index
            request.entry?) ∧
    ∀ (settings : List (Number.Settings β)) (commands : List (Nat × Command β))
      reached index calculator,
      after (settings.map .ofSettings) commands = reached →
      reached[index]? = some calculator →
      ∃ log, (Log.after (settings.map .ofSettings) commands)[index]? = some log ∧
        Shows calculator.vocabulary log.history ∧
        ∀ command,
          ChangesOnly (reached.map Calculator.vocabulary)
            ((perform reached index calculator command).1.map Calculator.vocabulary) index
            (command.entry? calculator) := by
  constructor
  · rintro count requests reached index vocabulary rfl present
    obtain ⟨history, kept, rfl⟩ : ∃ history,
        (History.after (List.replicate count []) requests)[index]? = some history ∧
          history.vocabulary = vocabulary := by
      rw [← Option.map_eq_some_iff, ← List.getElem?_map, ← after_empty, present]
    have shown : Shows history.vocabulary history := shows_vocabulary history
    exact ⟨history, kept, shown, fun request =>
      ⟨shown.allows _ index request, Vocabularies.changesOnly_perform present request⟩⟩
  · rintro settings commands reached index calculator rfl present
    obtain ⟨log, kept, rfl⟩ : ∃ log,
        (Log.after (settings.map .ofSettings) commands)[index]? = some log ∧
          log.calculator = calculator := by
      rw [← Option.map_eq_some_iff, ← List.getElem?_map, ← after_ofSettings, present]
    exact ⟨log, kept, shows_vocabulary log.history, changesOnly_perform present⟩

/-- The source of a copy changes `f`, the copy learns `e`. -/
def copiedVocabulary : List (Nat × Vocabularies.Request Int) :=
  [(0, .register "f" (.constant 1)), (0, .copy), (0, .register "f" (.constant 2)),
    (1, .register "e" (.constant 3)), (0, .listNames)]

/-- The source of a copy changes `f`, the copy evaluates with it and takes it
for its sum. -/
def copiedCalculator : List (Nat × Command Int) :=
  [(0, .registerOperation "f" (.constant 1)), (0, .copy),
    (0, .registerOperation "f" (.constant 2)), (1, .evaluate "f f +"), (1, .alias "+" "f")]

/-- A copy keeps what its source knew when it was made. -/
theorem copy_keeps_earlier_registration :
    (∃ vocabulary, (Vocabularies.after [.empty] copiedVocabulary)[1]? = some vocabulary ∧
      vocabulary.find? "f" = some (.constant 1) ∧ vocabulary.size = 2) ∧
    ∃ calculator, (after [.standard] copiedCalculator)[1]? = some calculator ∧
      calculator.find? "+" = some (.constant 1) ∧ "f" ∈ calculator.names := by
  obtain ⟨vocabularies, calculators⟩ := last_registration_wins Int Int
  constructor
  · obtain ⟨history, kept, shown, _⟩ := vocabularies 1 copiedVocabulary _ 1 _ rfl rfl
    cases kept
    exact ⟨_, rfl, shown.find "f", shown.size⟩
  · obtain ⟨log, kept, shown, _⟩ :=
      calculators [Number.defaultSettings] copiedCalculator _ 1 _ rfl rfl
    cases kept
    exact ⟨_, rfl, shown.find "+", (shown.names "f").mpr ⟨.constant 1, by simp [Log.record]⟩⟩

end Session

end PostfixCalc
