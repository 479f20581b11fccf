/-
# Reading a laid-out trace

The columns of a laid-out trace are padded, and their widths depend on all of
its steps. They are read by the words of a line: rank, token and role come
first, whatever the padding, and are never broken. Lines whose first three
words agree have the same columns, so what follows these agrees as well, and
a list of entries is cut again at its commas.

Main statement: traces of any two evaluations on one kind of number that are
laid out alike are the same trace. A laid-out trace has one line for each step,
none of them empty, and neither starts nor ends with a newline.
-/

import PostfixCalc.Number.Integer
import PostfixCalc.Number.Rational
import PostfixCalc.Proofs.TraceTruth
import PostfixCalc.Proofs.WrittenNumbers

namespace PostfixCalc

namespace Text

/-! ## Entries -/

/-- The blank behind a comma can be counted to the entry after it. -/
theorem toList_commaSeparated (entry : String) (rest : List String) :
    (commaSeparated (entry :: rest)).toList =
      [','].intercalate (entry.toList :: rest.map fun other => ' ' :: other.toList) := by
  induction rest generalizing entry with
  | nil => simp [commaSeparated]
  | cons next others ih =>
      have later := ih next
      rw [commaSeparated] at later
      rw [commaSeparated, String.intercalate_cons_cons, String.toList_append, later]
      cases others <;> simp [List.intercalate_cons_cons]

theorem splitOn_commaSeparated {entry : String} {rest : List String}
    (each : ∀ other ∈ entry :: rest, IsEntry other) :
    (commaSeparated (entry :: rest)).toList.splitOn ',' =
      entry.toList :: rest.map fun other => ' ' :: other.toList := by
  rw [toList_commaSeparated]
  refine List.splitOn_intercalate ',' ?_ (List.cons_ne_nil _ _)
  intro piece member
  rcases List.mem_cons.mp member with rfl | member
  · exact (each entry List.mem_cons_self).no_comma
  · obtain ⟨other, inside, rfl⟩ := List.mem_map.mp member
    rw [List.mem_cons, not_or]
    exact ⟨by decide, (each other (List.mem_cons_of_mem _ inside)).no_comma⟩

/-- Separated entries are not the empty text, which has no entry. -/
theorem commaSeparated_ne_empty {entry : String} {rest : List String}
    (each : ∀ other ∈ entry :: rest, IsEntry other) : commaSeparated (entry :: rest) ≠ "" := by
  intro empty
  have pieces := splitOn_commaSeparated each
  rw [empty, String.toList_empty, List.splitOn_nil] at pieces
  injection pieces with first
  exact (each entry List.mem_cons_self).isWord.1 first.symm

theorem eq_of_commaSeparated_eq {first second : List String}
    (first_each : ∀ entry ∈ first, IsEntry entry) (second_each : ∀ entry ∈ second, IsEntry entry)
    (same : commaSeparated first = commaSeparated second) : first = second := by
  cases first with
  | nil =>
      cases second with
      | nil => rfl
      | cons entry rest => exact absurd same.symm (commaSeparated_ne_empty second_each)
  | cons entry rest =>
      cases second with
      | nil => exact absurd same (commaSeparated_ne_empty first_each)
      | cons other others =>
          have pieces := splitOn_commaSeparated first_each
          rw [same, splitOn_commaSeparated second_each, List.cons.injEq] at pieces
          have front : Function.Injective fun text : String => ' ' :: text.toList :=
            fun _ _ equal => String.toList_inj.mp (List.cons.inj equal).2
          rw [String.toList_inj.mp pieces.1, List.map_injective_iff.mpr front pieces.2]

/-- A text on one line. -/
def IsUnbroken (text : String) : Prop :=
  '\n' ∉ text.toList

instance (text : String) : Decidable (IsUnbroken text) :=
  inferInstanceAs (Decidable ('\n' ∉ text.toList))

theorem isUnbroken_append {first second : String} :
    IsUnbroken (first ++ second) ↔ IsUnbroken first ∧ IsUnbroken second := by
  simp [IsUnbroken]

theorem IsWord.isUnbroken {word : String} (is_word : IsWord word) : IsUnbroken word :=
  fun newline => absurd (is_word.2 _ newline) (by decide)

theorem isUnbroken_commaSeparated {entries : List String}
    (each : ∀ entry ∈ entries, IsUnbroken entry) : IsUnbroken (commaSeparated entries) := by
  unfold commaSeparated
  induction entries with
  | nil => exact List.not_mem_nil
  | cons entry rest ih =>
      have own := each entry List.mem_cons_self
      have later := ih fun other member => each other (List.mem_cons_of_mem _ member)
      cases rest with
      | nil => rwa [String.intercalate_singleton]
      | cons next others =>
          rw [String.intercalate_cons_cons, isUnbroken_append, isUnbroken_append]
          exact ⟨⟨own, by decide⟩, later⟩

/-! ## Lines -/

/-- A text of so many lines, none of them empty, without a newline in front of
the first or behind the last of them. -/
structure HasLines (text : String) (count : Nat) : Prop where
  count_eq : (text.toList.splitOn '\n').length = count
  nonempty : [] ∉ text.toList.splitOn '\n'
  not_leading : text.toList.head? ≠ some '\n'
  not_trailing : text.toList.getLast? ≠ some '\n'

theorem splitOn_newline (front rest : List Char) :
    (front ++ '\n' :: rest).splitOn '\n' = front.splitOn '\n' ++ rest.splitOn '\n' :=
  List.splitOnP_append_cons front rest (beq_self_eq_true '\n')

/-- A newline at either end would cut an empty line off. -/
theorem hasLines_of_nonempty {text : String} (nonempty : [] ∉ text.toList.splitOn '\n') :
    HasLines text (text.toList.splitOn '\n').length := by
  refine ⟨rfl, nonempty, fun leading => nonempty ?_, fun trailing => nonempty ?_⟩
  · obtain ⟨rest, starts⟩ := List.head?_eq_some_iff.mp leading
    rw [starts, ← List.nil_append ('\n' :: rest), splitOn_newline]
    exact List.mem_cons_self
  · obtain ⟨front, ends⟩ := List.getLast?_eq_some_iff.mp trailing
    rw [ends, splitOn_newline]
    exact List.mem_append_right _ List.mem_cons_self

/-- Lines put below each other are found again. -/
theorem splitOn_lines {lines : List String} (some_line : lines ≠ [])
    (each : ∀ line ∈ lines, IsUnbroken line) :
    ("\n".intercalate lines).toList.splitOn '\n' = lines.map String.toList := by
  rw [String.toList_intercalate]
  refine List.splitOn_intercalate '\n' ?_ (by simpa using some_line)
  intro chars member
  obtain ⟨line, inside, rfl⟩ := List.mem_map.mp member
  exact each line inside

end Text

namespace Trace

/-! ## Columns -/

/-- The spaces that pad a column. -/
def padding (count : Nat) : String :=
  String.ofList (List.replicate count ' ')

theorem isBlankText_padding (count : Nat) : Text.isBlankText (padding count) = true := by
  simp only [Text.isBlankText, padding, String.toList_ofList, List.all_eq_true]
  intro c member
  rw [List.eq_of_mem_replicate member]
  rfl

theorem alignRight_eq (width : Nat) (text : String) :
    alignRight width text = padding (width - text.length) ++ text := by
  rw [alignRight, List.leftpad, String.ofList_append, String.ofList_toList, padding,
    String.length_toList]

theorem alignLeft_eq (width : Nat) (text : String) :
    alignLeft width text = text ++ padding (width - text.length) := by
  rw [alignLeft, List.rightpad, String.ofList_append, String.ofList_toList, padding,
    String.length_toList]

/-- The columns of a line in front of the stack. -/
def columns (width : Nat) (token : Token) (role : Role) : String :=
  alignRight positionWidth (Decimal.natText token.position) ++ "  " ++
    alignLeft width token.text ++ "  " ++ alignLeft roleWidth (roleText role) ++ " "

/-- The written stack at the end of a line. -/
def stackText (entries : List String) : String :=
  "[" ++ Text.commaSeparated entries ++ "]"

theorem line_eq (width : Nat) (step : TraceStep) :
    line width step = columns width step.token step.role ++ stackText step.entries := by
  have bracket : " [" = " " ++ "[" := rfl
  simp only [line, columns, stackText, bracket, String.append_assoc]

theorem isWord_roleText (role : Role) : Text.IsWord (roleText role) := by
  cases role with
  | literal => decide
  | function arity =>
      have front : Text.IsWord "fonction/" := by decide
      refine ⟨by simp [roleText], fun c member => ?_⟩
      rw [roleText, String.toList_append] at member
      rcases List.mem_append.mp member with fixed | digit
      · exact front.2 c fixed
      · exact (Decimal.isWord_natText arity).2 c digit

theorem roleText_injective : Function.Injective roleText := by
  have literal_ne (arity : Nat) : roleText .literal ≠ roleText (.function arity) := by
    intro same
    have first := congrArg (fun text : String => text.toList.head?) same
    simp [roleText] at first
  intro first second same
  cases first with
  | literal =>
      cases second with
      | literal => rfl
      | function arity => exact absurd same (literal_ne arity)
  | function arity =>
      cases second with
      | literal => exact absurd same.symm (literal_ne arity)
      | function other =>
          have digits := (String.append_right_inj "fonction/").mp same
          rw [Decimal.natText_injective digits]

/-- The first three words of a line are its rank, its token and its role, and
no padding belongs to them. -/
theorem words_columns_append (width : Nat) {token : Token} (is_word : Text.IsWord token.text)
    (role : Role) (rest : String) :
    Text.words (columns width token role ++ rest) =
      Decimal.natText token.position :: token.text :: roleText role :: Text.words rest := by
  have regrouped : columns width token role ++ rest =
      padding (positionWidth - (Decimal.natText token.position).length) ++
        (Decimal.natText token.position ++ ("  " ++
        (token.text ++ ((padding (width - token.text.length) ++ "  ") ++
        (roleText role ++ ((padding (roleWidth - (roleText role).length) ++ " ") ++ rest)))))) := by
    simp only [columns, alignRight_eq, alignLeft_eq, String.append_assoc]
  have padded_blank (count : Nat) {spaces : String} (blank : Text.isBlankText spaces = true) :
      Text.isBlankText (padding count ++ spaces) = true := by
    rw [Text.isBlankText_append, isBlankText_padding, blank, Bool.and_self]
  rw [regrouped, Text.words_blanks_append (isBlankText_padding _),
    Text.words_word_blanks (Decimal.isWord_natText _) rfl (by decide),
    Text.words_word_blanks is_word (padded_blank _ rfl) (by simp),
    Text.words_word_blanks (isWord_roleText role) (padded_blank _ rfl) (by simp)]

/-! ## Lines of a trace -/

/-- A step that can be read from its line: its token is a word, and its
entries can be told from their neighbours. -/
structure IsLegible (step : TraceStep) : Prop where
  token : Text.IsWord step.token.text
  entries : ∀ entry ∈ step.entries, Text.IsEntry entry

/-- Token and role are read from a line whatever its width. -/
theorem front_eq_of_line_eq {width other_width : Nat} {step other : TraceStep}
    (legible : IsLegible step) (other_legible : IsLegible other)
    (same : line width step = line other_width other) :
    step.token = other.token ∧ step.role = other.role := by
  have read := congrArg Text.words same
  rw [line_eq, line_eq, words_columns_append width legible.token,
    words_columns_append other_width other_legible.token] at read
  simp only [List.cons.injEq] at read
  obtain ⟨rank, text, role, _⟩ := read
  refine ⟨?_, roleText_injective role⟩
  rw [Token.mk.injEq]
  exact ⟨text, Decimal.natText_injective rank⟩

/-- Lines of one width are read in full. -/
theorem eq_of_line_eq {width : Nat} {step other : TraceStep}
    (legible : IsLegible step) (other_legible : IsLegible other)
    (same : line width step = line width other) : step = other := by
  obtain ⟨token, role⟩ := front_eq_of_line_eq legible other_legible same
  rw [line_eq, line_eq, token, role, String.append_right_inj, stackText, stackText,
    String.append_left_inj, String.append_right_inj] at same
  have entries := Text.eq_of_commaSeparated_eq legible.entries other_legible.entries same
  rw [TraceStep.mk.injEq]
  exact ⟨token, role, entries⟩

theorem isUnbroken_line (width : Nat) {step : TraceStep} (legible : IsLegible step) :
    Text.IsUnbroken (line width step) := by
  have no_newline (count : Nat) : Text.IsUnbroken (padding count) := by
    intro newline
    rw [padding, String.toList_ofList] at newline
    cases List.eq_of_mem_replicate newline
  have stack : Text.IsUnbroken (Text.commaSeparated step.entries) :=
    Text.isUnbroken_commaSeparated fun entry member =>
      (legible.entries entry member).isWord.isUnbroken
  simp only [line, alignRight_eq, alignLeft_eq, Text.isUnbroken_append, no_newline, stack,
    legible.token.isUnbroken, (Decimal.isWord_natText _).isUnbroken, (isWord_roleText _).isUnbroken,
    true_and, and_true]
  decide

theorem line_ne_empty (width : Nat) (step : TraceStep) : line width step ≠ "" := by
  simp [line_eq, stackText]

/-- The width of a trace depends on its tokens only. -/
theorem widest_eq (steps : List TraceStep) :
    widest steps = (steps.map TraceStep.token).foldl
      (fun width token => max width token.text.length) 0 := by
  rw [List.foldl_map, widest]

/-- The lines of a layout are those of the steps. -/
theorem splitOn_layout {steps : List TraceStep} (some_step : steps ≠ [])
    (legible : ∀ step ∈ steps, IsLegible step) :
    (layout steps).toList.splitOn '\n' =
      (steps.map (line (widest steps))).map String.toList := by
  refine Text.splitOn_lines (by simpa using some_step) fun text member => ?_
  obtain ⟨step, inside, rfl⟩ := List.mem_map.mp member
  exact isUnbroken_line _ (legible step inside)

theorem hasLines_layout {steps : List TraceStep} (some_step : steps ≠ [])
    (legible : ∀ step ∈ steps, IsLegible step) : Text.HasLines (layout steps) steps.length := by
  have cut := splitOn_layout some_step legible
  have count : ((layout steps).toList.splitOn '\n').length = steps.length := by
    rw [cut, List.length_map, List.length_map]
  rw [← count]
  refine Text.hasLines_of_nonempty ?_
  rw [cut, List.map_map]
  intro empty
  obtain ⟨step, _, none⟩ := List.mem_map.mp empty
  exact line_ne_empty _ step (String.toList_eq_nil_iff.mp none)

/-- What steps have in common whenever their lines agree, traces with the same
lines have in common. -/
theorem map_eq_map_of_lines {β : Type} {read : TraceStep → β} {width other_width : Nat}
    {first second : List TraceStep}
    (agree : ∀ step ∈ first, ∀ other ∈ second,
      line width step = line other_width other → read step = read other)
    (same : first.map (line width) = second.map (line other_width)) :
    first.map read = second.map read := by
  induction first generalizing second with
  | nil => rw [List.map_eq_nil_iff.mp same.symm]
  | cons step rest ih =>
      cases second with
      | nil => exact absurd (List.map_eq_nil_iff.mp same) (List.cons_ne_nil _ _)
      | cons other others =>
          rw [List.map_cons, List.map_cons, List.cons.injEq] at same
          have head := agree step List.mem_cons_self other List.mem_cons_self same.1
          have tail := ih (fun step inside other there =>
            agree step (List.mem_cons_of_mem _ inside) other (List.mem_cons_of_mem _ there)) same.2
          rw [List.map_cons, List.map_cons, head, tail]

/-- Legible traces that are laid out alike are the same. The tokens are read
first: only then are the widths known to agree. -/
theorem eq_of_layout_eq {first second : List TraceStep} (first_some : first ≠ [])
    (second_some : second ≠ []) (first_legible : ∀ step ∈ first, IsLegible step)
    (second_legible : ∀ step ∈ second, IsLegible step) (same : layout first = layout second) :
    first = second := by
  have cut := splitOn_layout first_some first_legible
  rw [same, splitOn_layout second_some second_legible] at cut
  have lines : first.map (line (widest first)) = second.map (line (widest second)) :=
    List.map_injective_iff.mpr (fun _ _ => String.toList_inj.mp) cut.symm
  have tokens : first.map TraceStep.token = second.map TraceStep.token := by
    refine map_eq_map_of_lines (fun step inside other there agree => ?_) lines
    exact (front_eq_of_line_eq (first_legible step inside) (second_legible other there) agree).1
  have width : widest first = widest second := by
    rw [widest_eq, widest_eq, tokens]
  rw [width] at lines
  have steps : first.map id = second.map id := by
    refine map_eq_map_of_lines (fun step inside other there agree => ?_) lines
    exact eq_of_line_eq (first_legible step inside) (second_legible other there) agree
  rwa [List.map_id, List.map_id] at steps

end Trace

namespace Calculator

variable {α : Type} [Number α]

/-- An evaluation with a trace has legible steps, one at least. -/
theorem legible_of_explain (entries : Number.WrittenAsEntries α) {calculator : Calculator α}
    {equation : String} {value : α} {steps : List TraceStep}
    (explained : calculator.explain equation = .ok (value, steps)) :
    steps ≠ [] ∧ ∀ step ∈ steps, Trace.IsLegible step := by
  obtain ⟨evaluated, rfl⟩ := calculator.explain_eq_ok_iff.mp explained
  have reached := calculator.evaluate_eq_ok_iff.mp evaluated
  have tokens := calculator.map_token_steps reached
  rw [Run.trace, calculator.steps_run]
  refine ⟨fun none => ?_, fun shown member => ?_⟩
  · rw [← tokens, List.map_eq_nil_iff.mp none] at reached
    cases reached
  · obtain ⟨step, taken, rfl⟩ := List.mem_map.mp member
    refine ⟨?_, fun entry written => ?_⟩
    · have is_token : step.token ∈ Token.ofEquation equation := by
        rw [← tokens]
        exact List.mem_map_of_mem taken
      have is_text : step.token.text ∈ Text.words equation := by
        rw [← Token.map_text_numbered 1 (Text.words equation)]
        exact List.mem_map_of_mem is_token
      exact Text.isWord_of_mem_words is_text
    · obtain ⟨number, _, rfl⟩ := List.mem_map.mp written
      exact entries number

/-- What the layout of a trace tells for one kind of number: it has a line for
each step, and the trace can be read from it, whatever the calculator and the
equation were. -/
structure LayoutTells (α : Type) [Number α] : Prop where
  lines : ∀ (calculator : Calculator α) (equation : String) (value : α)
    (steps : List TraceStep), calculator.explain equation = .ok (value, steps) →
      Text.HasLines (Trace.layout steps) steps.length
  trace : ∀ (first second : Calculator α) (equation other : String) (value other_value : α)
    (steps other_steps : List TraceStep), first.explain equation = .ok (value, steps) →
      second.explain other = .ok (other_value, other_steps) →
      Trace.layout steps = Trace.layout other_steps → steps = other_steps

theorem layoutTells_of_entries (entries : Number.WrittenAsEntries α) : LayoutTells α where
  lines _ _ _ _ explained :=
    have shown := legible_of_explain entries explained
    Trace.hasLines_layout shown.1 shown.2
  trace _ _ _ _ _ _ _ _ explained also_explained same :=
    have shown := legible_of_explain entries explained
    have also_shown := legible_of_explain entries also_explained
    Trace.eq_of_layout_eq shown.1 also_shown.1 shown.2 also_shown.2 same

/-- A laid-out trace loses nothing, on every kind of number. -/
theorem layout_tells_trace : LayoutTells Rat ∧ LayoutTells Float ∧ LayoutTells Int :=
  ⟨layoutTells_of_entries Rational.writtenAsEntries,
    layoutTells_of_entries Floating.writtenAsEntries,
    layoutTells_of_entries Integer.writtenAsEntries⟩

/-- The steps of `2 3 +` for two meanings of the sign. -/
def signSteps (result : String) : List TraceStep :=
  [⟨⟨"2", 1⟩, .literal, ["2"]⟩, ⟨⟨"3", 2⟩, .literal, ["2", "3"]⟩,
    ⟨⟨"+", 3⟩, .function 2, [result]⟩]

/-- A sum is laid out on three lines, and its layout shows whether the sign of
addition still means addition. -/
theorem layout_of_sum_told :
    (standard : Calculator Int).explain "2 3 +" = .ok (5, signSteps "5") ∧
    (standard.register "+" (.binary fun x y => .ok (x * y)) : Calculator Int).explain "2 3 +" =
      .ok (6, signSteps "6") ∧
    Text.HasLines (Trace.layout (signSteps "5")) 3 ∧
    Trace.layout (signSteps "5") ≠ Trace.layout (signSteps "6") := by
  have sum : (standard : Calculator Int).explain "2 3 +" = .ok (5, signSteps "5") := rfl
  have other : (standard.register "+" (.binary fun x y => .ok (x * y)) : Calculator Int).explain
      "2 3 +" = .ok (6, signSteps "6") := rfl
  have told := layout_tells_trace.2.2
  refine ⟨sum, other, told.lines _ _ _ _ sum, fun same => ?_⟩
  have steps := told.trace _ _ _ _ _ _ _ _ sum other same
  exact absurd steps (by decide)

end Calculator

end PostfixCalc
