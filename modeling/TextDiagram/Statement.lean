import TextDiagram.Text.Words

/-!
# Statements

The source of a diagram is a list of statements. A statement stands on a line of its own or between
semicolons; blank pieces and comments say nothing.
-/

namespace TextDiagram

open Text

/-- A line without the carriage return at its end. -/
def withoutReturn (line : List Char) : List Char :=
  if line.getLast? = some '\r' then line.dropLast else line

/-- The lines of a text. A carriage return in front of a newline belongs to the end of the line. What
follows the last newline is a line unless it is empty, and keeps a carriage return. -/
def lines (source : List Char) : List (List Char) :=
  let pieces := source.splitOn '\n'
  pieces.dropLast.map withoutReturn ++ pieces.getLast?.toList.filter fun rest => !rest.isEmpty

/-- What opens a comment. -/
def commentMark : List Char := "%%".toList

/-- Whether a trimmed piece of the source says something. -/
def isStatement (piece : List Char) : Bool :=
  !piece.isEmpty && !commentMark.isPrefixOf piece

/-- The statements of a source: its lines cut at semicolons and trimmed, without the blank pieces
and the comments. -/
def statements (source : List Char) : List (List Char) :=
  (((lines source).flatMap fun line => line.splitOn ';').map trim).filter isStatement

end TextDiagram
