/-
# Words of a text

A text is cut into blanks and maximal runs without a blank. `wordChars_induction`
follows this cut from left to right, and the laws of words are read off it:
every word is nonempty and unbroken, a text has no word exactly if it is blank,
and words joined by spaces are found again.
-/

import Mathlib.Data.List.Basic
import Mathlib.Data.List.TakeWhile
import PostfixCalc.Token

namespace PostfixCalc

namespace Text

/-- A text that is one word: nonempty and without a blank. -/
def IsWord (text : String) : Prop :=
  text.toList ≠ [] ∧ ∀ c ∈ text.toList, isBlank c = false

instance (text : String) : Decidable (IsWord text) :=
  decidable_of_iff (text.toList ≠ [] ∧ text.toList.all (fun c => !isBlank c) = true) (by
    simp [IsWord])

theorem wordChars_cons_blank {c : Char} (blank : isBlank c = true) (rest : List Char) :
    wordChars (c :: rest) = wordChars rest := by
  simpa [wordChars_nil] using wordChars_append_blank [] rest blank

/-- A run is a word if it cannot be continued. -/
theorem wordChars_append_run {run rest : List Char} (nonempty : run ≠ [])
    (unbroken : ∀ c ∈ run, isBlank c = false) (ended : ∀ c ∈ rest.head?, isBlank c = true) :
    wordChars (run ++ rest) = run :: wordChars rest := by
  cases rest with
  | nil => rw [List.append_nil, wordChars_eq_singleton nonempty unbroken, wordChars_nil]
  | cons c later =>
      have blank : isBlank c = true := ended c rfl
      rw [wordChars_append_blank _ _ blank, wordChars_eq_singleton nonempty unbroken,
        wordChars_cons_blank blank]
      rfl

/-- Every text is empty, or starts with a blank, or starts with a maximal run. -/
theorem wordChars_induction {motive : List Char → Prop} (nil : motive [])
    (blank : ∀ c rest, isBlank c = true → motive rest → motive (c :: rest))
    (run : ∀ run rest, run ≠ [] → (∀ c ∈ run, isBlank c = false) →
      (∀ c ∈ rest.head?, isBlank c = true) → motive rest → motive (run ++ rest))
    (chars : List Char) : motive chars := by
  match chars with
  | [] => exact nil
  | c :: later =>
      by_cases starts_blank : isBlank c = true
      · exact blank c later starts_blank (wordChars_induction nil blank run later)
      · have starts_run : isBlank c = false := by simpa using starts_blank
        rw [← List.takeWhile_append_dropWhile (p := fun c => !isBlank c) (l := later),
          ← List.cons_append]
        apply run
        · exact List.cons_ne_nil _ _
        · intro d member
          rcases List.mem_cons.mp member with rfl | member
          · exact starts_run
          · simpa using List.mem_takeWhile_imp member
        · intro d first
          have stopped := List.head?_dropWhile_not (fun c => !isBlank c) later
          rw [Option.mem_def.mp first] at stopped
          simpa using stopped
        · exact wordChars_induction nil blank run _
termination_by chars.length
decreasing_by
  · simp
  · have shorter := List.length_dropWhile_le (fun c => !isBlank c) later
    rw [List.length_cons]
    omega

/-- Words are nonempty and without a blank. -/
theorem isWord_of_mem_words {text word : String} (member : word ∈ words text) : IsWord word := by
  have chars_word : ∀ run ∈ wordChars text.toList,
      run ≠ [] ∧ ∀ c ∈ run, isBlank c = false := by
    induction text.toList using wordChars_induction with
    | nil => simp [wordChars_nil]
    | blank c rest blank ih =>
        rw [wordChars_cons_blank blank]
        exact ih
    | run run rest nonempty unbroken ended ih =>
        rw [wordChars_append_run nonempty unbroken ended]
        intro other member
        rcases List.mem_cons.mp member with rfl | member
        · exact ⟨nonempty, unbroken⟩
        · exact ih other member
  obtain ⟨run, run_member, rfl⟩ := List.mem_map.mp member
  simpa [IsWord] using chars_word run run_member

theorem isBlankText_append (first second : String) :
    isBlankText (first ++ second) = (isBlankText first && isBlankText second) := by
  simp [isBlankText]

/-- A text has no word exactly if it is blank. -/
theorem words_eq_nil_iff {text : String} : words text = [] ↔ isBlankText text = true := by
  rw [words, List.map_eq_nil_iff, isBlankText]
  induction text.toList using wordChars_induction with
  | nil => simp [wordChars_nil]
  | blank c rest blank ih =>
      rw [wordChars_cons_blank blank, ih]
      simp [blank]
  | run run rest nonempty unbroken ended ih =>
      obtain ⟨c, later, rfl⟩ := List.exists_cons_of_ne_nil nonempty
      rw [wordChars_append_run nonempty unbroken ended]
      simp [unbroken c List.mem_cons_self]

theorem words_blanks_append {blanks : String} (blank : isBlankText blanks = true) (rest : String) :
    words (blanks ++ rest) = words rest := by
  have chars_words : ∀ chars : List Char, (∀ c ∈ chars, isBlank c = true) →
      wordChars (chars ++ rest.toList) = wordChars rest.toList := by
    intro chars each
    induction chars with
    | nil => rfl
    | cons c later ih =>
        rw [List.cons_append, wordChars_cons_blank (each c List.mem_cons_self)]
        exact ih fun d member => each d (List.mem_cons_of_mem _ member)
  rw [words, words, String.toList_append, chars_words _ (List.all_eq_true.mp blank)]

theorem words_append_of_isWord {word rest : String} (is_word : IsWord word)
    (ended : ∀ c ∈ rest.toList.head?, isBlank c = true) :
    words (word ++ rest) = word :: words rest := by
  rw [words, String.toList_append, wordChars_append_run is_word.1 is_word.2 ended, List.map_cons,
    String.ofList_toList]
  rfl

/-- What follows a word ends it, if blanks come first or nothing comes at all. -/
theorem isBlank_of_head? {blanks rest : String} (blank : isBlankText blanks = true)
    (apart : blanks = "" → rest = "") : ∀ c ∈ (blanks ++ rest).toList.head?, isBlank c = true := by
  intro c first
  by_cases none : blanks = ""
  · rw [none, apart none] at first
    cases first
  · have some_blank : blanks.toList ≠ [] := fun empty => none (String.toList_eq_nil_iff.mp empty)
    rw [String.toList_append, List.head?_append_of_ne_nil _ some_blank] at first
    exact List.all_eq_true.mp blank c (List.mem_of_mem_head? first)

/-- A word is read off in front of blanks. -/
theorem words_word_blanks {word blanks : String} (is_word : IsWord word)
    (blank : isBlankText blanks = true) (some_blank : blanks ≠ "") (rest : String) :
    words (word ++ (blanks ++ rest)) = word :: words rest := by
  rw [words_append_of_isWord is_word (isBlank_of_head? blank fun none => absurd none some_blank),
    words_blanks_append blank]

/-- Words joined by spaces are the words of the whole. -/
theorem words_intercalate {texts : List String} (each : ∀ text ∈ texts, IsWord text) :
    words (" ".intercalate texts) = texts := by
  have words_empty : words "" = [] := words_eq_nil_iff.mpr rfl
  induction texts with
  | nil => exact words_empty
  | cons text rest ih =>
      have own := each text List.mem_cons_self
      have found := ih fun other member => each other (List.mem_cons_of_mem _ member)
      cases rest with
      | nil =>
          have ended : ∀ c ∈ "".toList.head?, isBlank c = true := nofun
          simpa [words_empty] using words_append_of_isWord own ended
      | cons next others =>
          have ended : ∀ c ∈ (" " ++ " ".intercalate (next :: others)).toList.head?,
              isBlank c = true := isBlank_of_head? rfl fun none => absurd none (by decide)
          rw [String.intercalate_cons_cons, String.append_assoc, words_append_of_isWord own ended,
            words_blanks_append rfl, found]

end Text

namespace Token

theorem length_numbered (position : Nat) (texts : List String) :
    (numbered position texts).length = texts.length := by
  rw [← List.length_map (f := Token.text), map_text_numbered]

theorem numbered_eq_nil_iff {position : Nat} {texts : List String} :
    numbered position texts = [] ↔ texts = [] := by
  rw [← List.length_eq_zero_iff, length_numbered, List.length_eq_zero_iff]

theorem numbered_append (position : Nat) (first second : List String) :
    numbered position (first ++ second) =
      numbered position first ++ numbered (position + first.length) second := by
  induction first generalizing position with
  | nil => rfl
  | cons text rest ih =>
      simp [numbered, ih, Nat.add_comm, Nat.add_left_comm]

theorem numbered_take (position count : Nat) (texts : List String) :
    numbered position (texts.take count) = (numbered position texts).take count := by
  induction texts generalizing position count with
  | nil => simp [numbered]
  | cons text rest ih =>
      cases count with
      | zero => rfl
      | succ count => simp [numbered, ih]

theorem numbered_eq_mapIdx (position : Nat) (texts : List String) :
    numbered position texts = texts.mapIdx fun index text => ⟨text, position + index⟩ := by
  induction texts generalizing position with
  | nil => rfl
  | cons text rest ih =>
      rw [numbered, ih, List.mapIdx_cons]
      simp only [Nat.add_zero, Nat.add_assoc, Nat.add_comm 1]

theorem mem_numbered {token : Token} {position : Nat} {texts : List String}
    (member : token ∈ numbered position texts) :
    position ≤ token.position ∧ token.position < position + texts.length := by
  induction texts generalizing position with
  | nil => cases member
  | cons text rest ih =>
      rw [List.length_cons]
      rcases List.mem_cons.mp member with rfl | member
      · exact ⟨Nat.le_refl _, Nat.lt_add_of_pos_right (Nat.succ_pos _)⟩
      · have later := ih member
        omega

/-- Consecutive ranks moved to other consecutive ranks. -/
theorem map_numbered {move : Token → Token} {start target : Nat} {texts : List String}
    (moves : ∀ text, ∀ index < texts.length, move ⟨text, start + index⟩ = ⟨text, target + index⟩) :
    (numbered start texts).map move = numbered target texts := by
  induction texts generalizing start target with
  | nil => rfl
  | cons text rest ih =>
      have first := moves text 0 (Nat.succ_pos _)
      have others : (numbered (start + 1) rest).map move = numbered (target + 1) rest := by
        apply ih
        intro other index inside
        rw [Nat.add_right_comm start, Nat.add_right_comm target]
        exact moves other (index + 1) (Nat.succ_lt_succ inside)
      rw [numbered, List.map_cons, others]
      exact congrArg (· :: _) first

theorem ofEquation_intercalate {texts : List String} (each : ∀ text ∈ texts, Text.IsWord text) :
    ofEquation (" ".intercalate texts) = numbered 1 texts := by
  rw [ofEquation, Text.words_intercalate each]

theorem ofEquation_eq_nil_iff {equation : String} :
    ofEquation equation = [] ↔ Text.isBlankText equation = true := by
  rw [← Text.words_eq_nil_iff, ofEquation, numbered_eq_nil_iff]

end Token

end PostfixCalc
