/-
# Inputs and their lines

What the lines of an input are, said without cutting it: an input is spelled by
its lines, each with its end, which is a newline or a carriage return and a
newline, and the last line may have none. A carriage return that no newline
follows belongs to its line. Every input is spelled by exactly one list of
lines, the one that the cut at the newlines gives.

A line has a text if it is the UTF-8 of one, and then it is that of no other.
-/

import PostfixCalc.Text.Lines
import Mathlib.Data.List.Basic

namespace PostfixCalc.Text

/-- Lines that spell an input together with their ends. -/
inductive LinesOf : List UInt8 → List (List UInt8) → Prop
  | nothing : LinesOf [] []
  | unended {line : List UInt8} (nonempty : line ≠ []) (unbroken : newline ∉ line) :
      LinesOf line [line]
  | byNewline {line rest : List UInt8} {lines : List (List UInt8)}
      (unbroken : newline ∉ line) (unreturned : line.getLast? ≠ some carriageReturn)
      (following : LinesOf rest lines) : LinesOf (line ++ newline :: rest) (line :: lines)
  | byReturn {line rest : List UInt8} {lines : List (List UInt8)}
      (unbroken : newline ∉ line) (following : LinesOf rest lines) :
      LinesOf (line ++ carriageReturn :: newline :: rest) (line :: lines)

/-- The bytes of a text. -/
def utf8 (text : String) : List UInt8 :=
  text.toUTF8.data.toList

theorem splitOnP_of_unbroken {line : List UInt8} (unbroken : newline ∉ line) :
    line.splitOnP (· = newline) = [line] :=
  List.splitOnP_eq_singleton fun _ member =>
    decide_eq_false fun equal => unbroken (equal ▸ member)

theorem splitOnP_append_newline {line : List UInt8} (unbroken : newline ∉ line)
    (rest : List UInt8) :
    (line ++ newline :: rest).splitOnP (· = newline) =
      line :: rest.splitOnP (· = newline) := by
  rw [List.splitOnP_append_cons line rest (by simp), splitOnP_of_unbroken unbroken,
    List.singleton_append]

theorem lineBytes_nil : lineBytes [] = [] := by
  simp [lineBytes]

theorem lineBytes_of_unbroken {line : List UInt8} (nonempty : line ≠ [])
    (unbroken : newline ∉ line) : lineBytes line = [line] := by
  simp [lineBytes, splitOnP_of_unbroken unbroken, nonempty]

/-- The first newline ends the first line. -/
theorem lineBytes_append_newline {line : List UInt8} (unbroken : newline ∉ line)
    (rest : List UInt8) :
    lineBytes (line ++ newline :: rest) = dropReturn line :: lineBytes rest := by
  have some_piece := List.splitOnP_ne_nil (· = newline) rest
  simp only [lineBytes, splitOnP_append_newline unbroken,
    List.dropLast_cons_of_ne_nil some_piece, List.getLast?_cons_of_ne_nil some_piece,
    List.map_cons, List.cons_append]

theorem dropReturn_of_unreturned {line : List UInt8}
    (unreturned : line.getLast? ≠ some carriageReturn) : dropReturn line = line :=
  if_neg unreturned

theorem dropReturn_append_return (line : List UInt8) :
    dropReturn (line ++ [carriageReturn]) = line := by
  simp [dropReturn]

theorem LinesOf.lineBytes_eq {bytes : List UInt8} {lines : List (List UInt8)}
    (spelled : LinesOf bytes lines) : lineBytes bytes = lines := by
  induction spelled with
  | nothing => exact lineBytes_nil
  | unended nonempty unbroken => exact lineBytes_of_unbroken nonempty unbroken
  | byNewline unbroken unreturned _ following_eq =>
      rw [lineBytes_append_newline unbroken, dropReturn_of_unreturned unreturned, following_eq]
  | @byReturn line rest lines unbroken _ following_eq =>
      have unbroken_too : newline ∉ line ++ [carriageReturn] := by
        simpa [newline, carriageReturn] using unbroken
      rw [List.append_cons line carriageReturn, lineBytes_append_newline unbroken_too,
        dropReturn_append_return, following_eq]

theorem linesOf_lineBytes (bytes : List UInt8) : LinesOf bytes (lineBytes bytes) := by
  by_cases broken : newline ∈ bytes
  · obtain ⟨line, rest, bytes_eq, unbroken⟩ := List.eq_append_cons_of_mem broken
    have following := linesOf_lineBytes rest
    rw [bytes_eq, lineBytes_append_newline unbroken]
    by_cases returned : line.getLast? = some carriageReturn
    · obtain ⟨start, rfl⟩ := List.getLast?_eq_some_iff.mp returned
      rw [dropReturn_append_return, List.append_assoc]
      exact .byReturn (fun member => unbroken (List.mem_append_left _ member)) following
    · rw [dropReturn_of_unreturned returned]
      exact .byNewline unbroken returned following
  · by_cases empty : bytes = []
    · rw [empty, lineBytes_nil]
      exact .nothing
    · rw [lineBytes_of_unbroken empty broken]
      exact .unended empty broken
termination_by bytes.length
decreasing_by simp [bytes_eq]; omega

/-- An input is spelled by the lines it is cut into, and by no others. -/
theorem linesOf_iff {bytes : List UInt8} {lines : List (List UInt8)} :
    LinesOf bytes lines ↔ lineBytes bytes = lines :=
  ⟨LinesOf.lineBytes_eq, fun cut => cut ▸ linesOf_lineBytes bytes⟩

example : lineBytes [13, 10, 10, 50, 13] = [[], [], [50, 13]] := by
  decide

theorem decodeUtf8?_eq_some_iff {bytes : List UInt8} {text : String} :
    decodeUtf8? bytes = some text ↔ utf8 text = bytes := by
  unfold decodeUtf8? String.fromUTF8?
  split
  · rw [Option.some.injEq, ← String.toByteArray_inj]
    change ⟨bytes.toArray⟩ = text.toByteArray ↔ text.toByteArray.data.toList = bytes
    constructor
    · intro equal
      rw [← equal]
    · rintro rfl
      rfl
  · next invalid =>
    refine ⟨nofun, ?_⟩
    rintro rfl
    exact absurd text.isValidUTF8 invalid

theorem map_decodeUtf8?_utf8 (texts : List String) :
    (texts.map utf8).map decodeUtf8? = texts.map some := by
  simp [Function.comp_def, decodeUtf8?_eq_some_iff.mpr rfl]

theorem decodeUtf8?_eq_none_iff {bytes : List UInt8} :
    decodeUtf8? bytes = none ↔ ∀ text, utf8 text ≠ bytes := by
  simp only [Option.eq_none_iff_forall_ne_some, ne_eq, decodeUtf8?_eq_some_iff]

theorem lines_of_texts {bytes : List UInt8} {texts : List String}
    (spelled : LinesOf bytes (texts.map utf8)) : lines bytes = texts.map some := by
  rw [lines, spelled.lineBytes_eq, map_decodeUtf8?_utf8]

theorem lines_of_unreadable {bytes unreadable : List UInt8} {before : List String}
    {after : List (List UInt8)} (spelled : LinesOf bytes (before.map utf8 ++ unreadable :: after))
    (textless : ∀ text, utf8 text ≠ unreadable) :
    lines bytes = before.map some ++ none :: after.map decodeUtf8? := by
  rw [lines, spelled.lineBytes_eq, List.map_append, map_decodeUtf8?_utf8, List.map_cons,
    decodeUtf8?_eq_none_iff.mpr textless]

end PostfixCalc.Text
