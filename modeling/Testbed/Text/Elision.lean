import Testbed.Text.Lines
/-!
# Elision

Long output is cut for the log: its first lines are kept and a marker takes the place of the
rest, so that at most the allowed number of lines is shown. Two lines are always allowed.

| here | in the program |
| --- | --- |
| `elide`, `elisionMarker` | `elide`, `ELISION_MARKER` |
-/
namespace Testbed.Text

/-- What stands for the lines left out. -/
def elisionMarker : String := "(...)"

/-- The number of lines shown when `maxLines` are asked for. -/
def shownLines (maxLines : Nat) : Nat := max maxLines 2

/-- The elided text, or nothing if the text is short enough to be shown whole. -/
def elided? (s : List Char) (maxLines : Nat) : Option (List Char) :=
  if (lines s).length ≤ shownLines maxLines then none
  else
    some (joinBy ['\n'] ((lines s).take (shownLines maxLines - 1)) ++ '\n' :: elisionMarker.toList)

/-- The text itself if it has at most `maxLines` lines, else its first lines and the marker. -/
def elideChars (s : List Char) (maxLines : Nat) : List Char := (elided? s maxLines).getD s

/-- `elideChars` on strings. -/
def elide (s : String) (maxLines : Nat) : String := String.ofList (elideChars s.toList maxLines)

end Testbed.Text
