/-
# Texts laid out in words and blanks

A layout is a way to spell words: blanks in front of the first, and behind each
word the blanks that keep it from the next. It determines its text, and says
nothing of how a text is cut.

Main statement: every text has a layout, and cutting the text gives the words
of any of its layouts, ranked from one. So the words of a text are unique, no
word gets lost or torn, and the blanks decide nothing but where words end: two
equations with the same words have the same value, trace and error.
-/

import Mathlib.Data.List.Infix
import PostfixCalc.Number.Integer
import PostfixCalc.Proofs.Reach
import PostfixCalc.Proofs.Words
import PostfixCalc.Trace

namespace PostfixCalc

namespace Text

/-- A word and the blanks behind it. -/
structure Piece where
  word : String
  blanks : String
  isWord : IsWord word
  blank : isBlankText blanks = true

def Piece.text (piece : Piece) : String :=
  piece.word ++ piece.blanks

/-- Blanks in front of words that each have blanks behind them; only behind the
last word there may be none. -/
structure Layout where
  front : String
  front_blank : isBlankText front = true
  pieces : List Piece
  separated : ∀ piece ∈ pieces.dropLast, piece.blanks ≠ ""

namespace Layout

def text (layout : Layout) : String :=
  layout.front ++ String.join (layout.pieces.map Piece.text)

def words (layout : Layout) : List String :=
  layout.pieces.map Piece.word

end Layout

/-! ## The words of a layout -/

/-- Pieces that keep their words apart have these words. -/
theorem words_join_pieces {pieces : List Piece}
    (separated : ∀ piece ∈ pieces.dropLast, piece.blanks ≠ "") :
    words (String.join (pieces.map Piece.text)) = pieces.map Piece.word := by
  induction pieces with
  | nil => exact words_eq_nil_iff.mpr rfl
  | cons piece later ih =>
      have apart : piece.blanks = "" → String.join (later.map Piece.text) = "" := by
        intro none
        cases later with
        | nil => rfl
        | cons next others => exact absurd none (separated piece (by simp))
      have later_separated : ∀ other ∈ later.dropLast, other.blanks ≠ "" := by
        intro other member
        refine separated other ?_
        rw [List.dropLast_cons_of_ne_nil (List.ne_nil_of_mem (List.mem_of_mem_dropLast member))]
        exact List.mem_cons_of_mem _ member
      rw [List.map_cons, String.join_cons, Piece.text, String.append_assoc,
        words_append_of_isWord piece.isWord (isBlank_of_head? piece.blank apart),
        words_blanks_append piece.blank, ih later_separated, List.map_cons]

/-- Cutting a text gives the words of its layout. -/
theorem Layout.words_text (layout : Layout) : Text.words layout.text = layout.words := by
  rw [Layout.text, words_blanks_append layout.front_blank, words_join_pieces layout.separated,
    Layout.words]

/-! ## The layout of a text -/

/-- A blank in front of a layout. -/
def Layout.afterBlank (layout : Layout) (c : Char) (blank : isBlank c = true) : Layout where
  front := String.singleton c ++ layout.front
  front_blank := by
    have rest_blank := layout.front_blank
    simp_all [isBlankText]
  pieces := layout.pieces
  separated := layout.separated

/-- A text that starts with a blank, or is empty, has blanks in front of its first word. -/
theorem Layout.front_ne_empty {layout : Layout} (some_piece : layout.pieces ≠ [])
    (ended : ∀ c ∈ layout.text.toList.head?, isBlank c = true) : layout.front ≠ "" := by
  intro none
  obtain ⟨piece, later, pieces_eq⟩ := List.exists_cons_of_ne_nil some_piece
  obtain ⟨c, others, word_eq⟩ := List.exists_cons_of_ne_nil piece.isWord.1
  have first : layout.text.toList.head? = some c := by
    simp [Layout.text, none, pieces_eq, String.join_cons, Piece.text, word_eq]
  have unbroken : isBlank c = false := piece.isWord.2 c (by simp [word_eq])
  rw [ended c first] at unbroken
  cases unbroken

/-- A word in front of a layout whose text does not continue it. -/
def Layout.afterWord (layout : Layout) (word : String) (is_word : IsWord word)
    (ended : ∀ c ∈ layout.text.toList.head?, isBlank c = true) : Layout where
  front := ""
  front_blank := rfl
  pieces := ⟨word, layout.front, is_word, layout.front_blank⟩ :: layout.pieces
  separated := by
    intro piece member
    by_cases alone : layout.pieces = []
    · simp [alone] at member
    · rw [List.dropLast_cons_of_ne_nil alone] at member
      rcases List.mem_cons.mp member with rfl | member
      · exact Layout.front_ne_empty alone ended
      · exact layout.separated piece member

theorem Layout.text_afterBlank (layout : Layout) {c : Char} (blank : isBlank c = true) :
    (layout.afterBlank c blank).text = String.singleton c ++ layout.text :=
  String.append_assoc

theorem Layout.text_afterWord (layout : Layout) {word : String} (is_word : IsWord word)
    (ended : ∀ c ∈ layout.text.toList.head?, isBlank c = true) :
    (layout.afterWord word is_word ended).text = word ++ layout.text := by
  rw [Layout.text, Layout.text, Layout.afterWord, List.map_cons, String.join_cons, Piece.text,
    String.append_assoc]
  exact String.empty_append

/-- Every text has a layout. -/
theorem exists_layout (text : String) : ∃ layout : Layout, layout.text = text := by
  have of_chars : ∀ chars : List Char, ∃ layout : Layout, layout.text = String.ofList chars := by
    intro chars
    induction chars using wordChars_induction with
    | nil => exact ⟨⟨"", rfl, [], nofun⟩, rfl⟩
    | blank c rest blank ih =>
        obtain ⟨layout, spelled⟩ := ih
        refine ⟨layout.afterBlank c blank, ?_⟩
        rw [Layout.text_afterBlank, spelled, String.ofList_cons]
    | run run rest nonempty unbroken ended ih =>
        obtain ⟨layout, spelled⟩ := ih
        have is_word : IsWord (String.ofList run) := by simpa [IsWord] using ⟨nonempty, unbroken⟩
        refine ⟨layout.afterWord (String.ofList run) is_word (by simpa [spelled] using ended), ?_⟩
        rw [Layout.text_afterWord, spelled, String.ofList_append]
  obtain ⟨layout, spelled⟩ := of_chars text.toList
  exact ⟨layout, spelled.trans String.ofList_toList⟩

end Text

namespace Token

theorem ofEquation_text (layout : Text.Layout) :
    ofEquation layout.text = layout.words.mapIdx fun index word => ⟨word, index + 1⟩ := by
  rw [ofEquation, layout.words_text, numbered_eq_mapIdx]
  simp only [Nat.add_comm]

theorem cut_eq_error_iff {equation : String} {error : EvalError} :
    cut equation = .error error ↔
      error = .emptyEquation ∧ ∀ c ∈ equation.toList, Text.isBlank c = true := by
  rw [← List.all_eq_true, ← Text.isBlankText, ← ofEquation_eq_nil_iff]
  by_cases blank : ofEquation equation = []
  · simp [cut_of_no_token blank, blank, eq_comm]
  · simp [cut_of_token blank, blank]

theorem cut_eq_ok_iff {equation : String} {tokens : List Token} :
    cut equation = .ok tokens ↔ ofEquation equation ≠ [] ∧ tokens = ofEquation equation := by
  by_cases blank : ofEquation equation = []
  · simp [cut_of_no_token blank, blank]
  · simp [cut_of_token blank, blank, eq_comm]

/-- An equation is cut into no token exactly if it is blank. Otherwise it is cut
into the words of its layout, ranked from one; it has a layout, and all its
layouts have the same words. Equations laid out with the same words, whatever
the blanks, have the same value, trace and error in every calculator. -/
theorem cut_iff_layout :
    (∀ equation error, cut equation = .error error ↔
      error = .emptyEquation ∧ ∀ c ∈ equation.toList, Text.isBlank c = true) ∧
    (∀ equation tokens, cut equation = .ok tokens ↔
      ∃ layout : Text.Layout, layout.text = equation ∧ layout.words ≠ [] ∧
        tokens = layout.words.mapIdx fun index word => ⟨word, index + 1⟩) ∧
    (∀ equation, ∃! words, ∃ layout : Text.Layout, layout.text = equation ∧ layout.words = words) ∧
    (∀ (α : Type) [Number α] (calculator : Calculator α) (first second : Text.Layout),
      first.words = second.words →
        calculator.evaluate first.text = calculator.evaluate second.text ∧
        calculator.explain first.text = calculator.explain second.text) := by
  refine ⟨fun equation error => cut_eq_error_iff, fun equation tokens => ?_,
    fun equation => ?_, fun α _ calculator first second same_words => ?_⟩
  · have no_word_iff (layout : Text.Layout) : ofEquation layout.text = [] ↔ layout.words = [] := by
      rw [ofEquation_text, List.mapIdx_eq_nil_iff]
    rw [cut_eq_ok_iff]
    constructor
    · rintro ⟨some_token, rfl⟩
      obtain ⟨layout, rfl⟩ := Text.exists_layout equation
      exact ⟨layout, rfl, mt (no_word_iff layout).mpr some_token, ofEquation_text layout⟩
    · rintro ⟨layout, rfl, some_word, rfl⟩
      exact ⟨mt (no_word_iff layout).mp some_word, (ofEquation_text layout).symm⟩
  · obtain ⟨layout, rfl⟩ := Text.exists_layout equation
    refine ⟨layout.words, ⟨layout, rfl, rfl⟩, ?_⟩
    rintro words ⟨other, same_text, rfl⟩
    rw [← other.words_text, same_text, layout.words_text]
  · have same_run : calculator.run first.text = calculator.run second.text := by
      rw [Calculator.run, Calculator.run, cut, cut, ofEquation_text, ofEquation_text, same_words]
    rw [Calculator.evaluate, Calculator.evaluate, Calculator.explain, Calculator.explain, same_run]
    exact ⟨rfl, rfl⟩

/-- A sum with blanks of several kinds around its words, and the same sum with
one space between them. -/
def wideSum : Text.Layout :=
  ⟨"\t", rfl, [⟨"2", " \u3000", by decide, rfl⟩, ⟨"3", "\n", by decide, rfl⟩,
    ⟨"+", "\u00A0", by decide, rfl⟩], by decide⟩

@[inherit_doc wideSum]
def narrowSum : Text.Layout :=
  ⟨"", rfl, [⟨"2", " ", by decide, rfl⟩, ⟨"3", " ", by decide, rfl⟩, ⟨"+", "", by decide, rfl⟩],
    by decide⟩

/-- The words of a sum, and its value however it is spaced. -/
theorem value_of_wide_sum :
    cut "\n \t" = .error .emptyEquation ∧
    cut "\t2 \u30003\n+\u00A0" = .ok [⟨"2", 1⟩, ⟨"3", 2⟩, ⟨"+", 3⟩] ∧
    wideSum.text = "\t2 \u30003\n+\u00A0" ∧ narrowSum.text = "2 3 +" ∧
    wideSum.words = narrowSum.words ∧
    (Calculator.standard : Calculator Int).evaluate wideSum.text =
      (Calculator.standard : Calculator Int).evaluate narrowSum.text := by
  have wide_text : wideSum.text = "\t2 \u30003\n+\u00A0" := by decide
  have same_words : wideSum.words = narrowSum.words := rfl
  refine ⟨?_, ?_, wide_text, by decide, same_words, ?_⟩
  · have blank : Text.isBlankText "\n \t" = true := by decide
    exact (cut_iff_layout.1 _ _).mpr ⟨rfl, List.all_eq_true.mp blank⟩
  · exact (cut_iff_layout.2.1 _ _).mpr ⟨wideSum, wide_text, by decide, rfl⟩
  · exact (cut_iff_layout.2.2.2 Int .standard wideSum narrowSum same_words).1

end Token

end PostfixCalc
