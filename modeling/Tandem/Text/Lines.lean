import Tandem.Text.Blank

/-!
# Lines and words

A text is read as a sequence of lines, and a line as a sequence of words. Both are given by cutting
at a class of characters: lines at line feeds, words at blanks.
-/

namespace Tandem.Text

/-- A line without the carriage return that may stand before its line feed. -/
def dropReturn (line : List Char) : List Char :=
  if line.getLast? = some '\r' then line.dropLast else line

/-- The lines among the pieces left by cutting a text at its line feeds. Every piece but the last
was ended by a line feed, so it is a line and loses one carriage return; the last piece is a line
only if it is not empty, and is kept as it stands. -/
def ofPieces : List (List Char) → List (List Char)
  | [] => []
  | [last] => if last.isEmpty then [] else [last]
  | piece :: pieces => dropReturn piece :: ofPieces pieces

/-- The lines of a text, without their ends. -/
def lines (text : List Char) : List (List Char) :=
  ofPieces (text.splitOn '\n')

/-- The words of a line: its longest runs without blanks. -/
def words (line : List Char) : List (List Char) :=
  (line.splitOnP isBlank).filter fun word => !word.isEmpty

end Tandem.Text
