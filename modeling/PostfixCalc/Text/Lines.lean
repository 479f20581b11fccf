/-
# Lines of bytes

Bytes are cut into lines at each newline. A newline may be preceded by a
carriage return, which then belongs to the line end; a carriage return
elsewhere, even at the very end of the input, is part of the line. The last
line needs no newline, and nothing follows a final one. A line whose bytes are
not UTF-8 has no text.
-/

namespace PostfixCalc.Text

/-- The byte that ends a line. -/
def newline : UInt8 :=
  10

/-- The byte that may precede a newline. -/
def carriageReturn : UInt8 :=
  13

/-- The bytes of a terminated line without the carriage return of its end. -/
def dropReturn (line : List UInt8) : List UInt8 :=
  if line.getLast? = some carriageReturn then line.dropLast else line

/-- The lines of an input, each as its bytes: what stands before a newline is
a line, and so is what follows the last newline unless nothing does. -/
def lineBytes (bytes : List UInt8) : List (List UInt8) :=
  let pieces := bytes.splitOnP (· = newline)
  pieces.dropLast.map dropReturn ++
    pieces.getLast?.toList.filter fun unended => !unended.isEmpty

/-- The text that bytes encode in UTF-8. -/
def decodeUtf8? (bytes : List UInt8) : Option String :=
  String.fromUTF8? ⟨bytes.toArray⟩

/-- The lines of an input as texts; a line that is not UTF-8 has none. -/
def lines (bytes : List UInt8) : List (Option String) :=
  (lineBytes bytes).map decodeUtf8?

end PostfixCalc.Text
