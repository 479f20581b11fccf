/-
# Blanks and words

An equation is cut at its blanks, and a blank is a character with the Unicode
property `White_Space`: twenty-five code points, of which only six are ASCII.
A word is a maximal run of characters without a blank, so words are never
empty and the number of blanks between two of them does not matter.
-/

namespace PostfixCalc.Text

/-- Code points with the property `White_Space`, as closed ranges in increasing order. -/
def blankRanges : List (Nat × Nat) :=
  [(0x9, 0xD), (0x20, 0x20), (0x85, 0x85), (0xA0, 0xA0), (0x1680, 0x1680), (0x2000, 0x200A),
   (0x2028, 0x2029), (0x202F, 0x202F), (0x205F, 0x205F), (0x3000, 0x3000)]

/-- A character that separates words. -/
def isBlank (c : Char) : Bool :=
  blankRanges.any fun (first, last) => first ≤ c.toNat && c.toNat ≤ last

/-- The maximal runs of characters that are not blank, in order. -/
def wordChars (chars : List Char) : List (List Char) :=
  (chars.splitOnP isBlank).filter fun run => !run.isEmpty

/-- The words of a text. -/
def words (text : String) : List String :=
  (wordChars text.toList).map String.ofList

/-- A text without any word: empty, or blanks only. -/
def isBlankText (text : String) : Bool :=
  text.toList.all isBlank

theorem wordChars_nil : wordChars [] = [] := by
  simp [wordChars]

/-- A blank separates the words before it from the words after it. -/
theorem wordChars_append_blank (earlier later : List Char) {c : Char}
    (blank : isBlank c = true) :
    wordChars (earlier ++ c :: later) = wordChars earlier ++ wordChars later := by
  simp [wordChars, List.splitOnP_append_cons _ _ blank]

/-- A nonempty run without a blank is one word. -/
theorem wordChars_eq_singleton {word : List Char} (nonempty : word ≠ [])
    (unbroken : ∀ c ∈ word, isBlank c = false) : wordChars word = [word] := by
  simp [wordChars, List.splitOnP_eq_singleton unbroken, nonempty]

end PostfixCalc.Text
