import Testbed.Text.Pieces
/-!
# Lines

A line ends at a line feed, which is not part of it, and neither is one carriage return right
before that line feed. Text after the last line feed is a line of its own unless it is empty; a
carriage return at its end belongs to it.
-/
namespace Testbed.Text

/-- The text without one carriage return at its end. -/
def dropReturn (s : List Char) : List Char :=
  if s.getLast? = some '\r' then s.dropLast else s

/-- The lines whose ends are known: every piece but the last was followed by a line feed. -/
def linesOfPieces : List (List Char) → List (List Char)
  | [] => []
  | [rest] => if rest.isEmpty then [] else [rest]
  | piece :: next :: more => dropReturn piece :: linesOfPieces (next :: more)

/-- The lines of a text. -/
def lines (s : List Char) : List (List Char) := linesOfPieces (cutAt '\n' s)

end Testbed.Text
