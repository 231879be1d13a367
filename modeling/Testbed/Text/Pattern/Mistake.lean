import Testbed.Text.Lines
import Testbed.Text.Numeral
import Testbed.Text.Pieces
/-!
# Mistakes in expressions

What can be wrong with the written form of a pattern, and how it is told: the expression is shown
with the place of the mistake marked below it. An expression of several lines is shown with their
numbers.
-/
namespace Testbed.Text.Pattern

inductive MistakeKind
  | groupUnclosed
  | groupUnopened
  | groupNameUnclosed
  | groupNameEmpty
  | groupNameInvalid
  | groupNameTwice
  | lookAround
  | repetitionMissing
  | countUnclosed
  | countMissing
  | countTooLarge
  | countReversed
  | flagUnknown
  | flagMissing
  | flagTwice
  | flagNegatedTwice
  | flagNegationDangling
  | escapeUnfinished
  | escapeUnknown
  | escapeInSet
  | backreference
  | hexEmpty
  | hexDigit
  | hexNoCharacter
  | setUnclosed
  | rangeReversed
  | rangeOfSets
  | propertyInvalid
  | propertyUnknown
  | wordEdgeUnclosed
  | wordEdgeUnknown
  | wordEdgeUnfinished
  | noText
  deriving DecidableEq, Repr

def MistakeKind.message : MistakeKind → String
  | .groupUnclosed => "unclosed group"
  | .groupUnopened => "unopened group"
  | .groupNameUnclosed => "unclosed capture group name"
  | .groupNameEmpty => "empty capture group name"
  | .groupNameInvalid => "invalid capture group character"
  | .groupNameTwice => "duplicate capture group name"
  | .lookAround => "look-around, including look-ahead and look-behind, is not supported"
  | .repetitionMissing => "repetition operator missing expression"
  | .countUnclosed => "unclosed counted repetition"
  | .countMissing => "repetition quantifier expects a valid decimal"
  | .countTooLarge => "decimal literal invalid"
  | .countReversed => "invalid repetition count range, the start must be <= the end"
  | .flagUnknown => "unrecognized flag"
  | .flagMissing => "expected flag but got end of regex"
  | .flagTwice => "duplicate flag"
  | .flagNegatedTwice => "flag negation operator repeated"
  | .flagNegationDangling => "dangling flag negation operator"
  | .escapeUnfinished => "incomplete escape sequence, reached end of pattern prematurely"
  | .escapeUnknown => "unrecognized escape sequence"
  | .escapeInSet => "invalid escape sequence found in character class"
  | .backreference => "backreferences are not supported"
  | .hexEmpty => "hexadecimal literal empty"
  | .hexDigit => "invalid hexadecimal digit"
  | .hexNoCharacter => "hexadecimal literal is not a Unicode scalar value"
  | .setUnclosed => "unclosed character class"
  | .rangeReversed => "invalid character class range, the start must be <= the end"
  | .rangeOfSets => "invalid range boundary, must be a literal"
  | .propertyInvalid => "invalid Unicode character class"
  | .propertyUnknown => "Unicode property not found"
  | .wordEdgeUnclosed =>
    "special word boundary assertion is either unclosed or contains an invalid character"
  | .wordEdgeUnknown =>
    "unrecognized special word boundary assertion, valid choices are: start, end, start-half " ++
      "or end-half"
  | .wordEdgeUnfinished =>
    "found either the beginning of a special word boundary or a bounded repetition on a \\b " ++
      "with an opening brace, but no closing brace"
  | .noText => "pattern can match invalid UTF-8"

/-- A part of an expression, from a place to another. -/
structure Span where
  first : Nat
  last : Nat
  deriving DecidableEq, Repr

/-- A mistake, the part that is wrong, and another part that it is wrong with. -/
structure Mistake where
  kind : MistakeKind
  span : Span
  other : Option Span := none
  deriving DecidableEq, Repr

namespace Mistake

/-- The line of a place and its column in it, both from zero on. -/
def position (text : List Char) (place : Nat) : Nat × Nat :=
  let lines := cutAt '\n' (text.take place)
  (lines.length - 1, (lines.getLast?.getD []).length)

/-- A line that marks some columns. -/
def marks (done : Nat) : List (Nat × Nat) → List Char
  | [] => []
  | (first, last) :: rest =>
    let count := max 1 (last - first)
    List.replicate (first - done) ' ' ++ List.replicate count '^' ++
      marks (max done first + count) rest

/-- The spans within one line, as columns. -/
def marked (text : List Char) (line : Nat) (spans : List Span) : List (Nat × Nat) :=
  let columns := spans.filterMap fun s =>
    let (first, column) := position text s.first
    let (last, columnAfter) := position text s.last
    if first = line && last = line then some (column, columnAfter) else none
  columns.mergeSort fun a b => a.1 < b.1 || (a.1 = b.1 && a.2 ≤ b.2)

/-- The lines of the expression with the marks below them. `width` is that of the line numbers, none
if there are no numbers. -/
def shownLines (text : List Char) (width : Option Nat) (spans : List Span) :
    Nat → List (List Char) → List String
  | _, [] => []
  | n, line :: rest =>
    let number := (decimal (n + 1)).toList
    let start := match width with
      | some width => List.replicate (width - number.length) ' ' ++ number ++ [':', ' ']
      | none => [' ', ' ', ' ', ' ']
    let below := match marked text n spans with
      | [] => []
      | columns => [String.ofList (List.replicate start.length ' ' ++ marks 0 columns)]
    String.ofList (start ++ line) :: below ++ shownLines text width spans (n + 1) rest

/-- What is told of a mistake in an expression. -/
def report (m : Mistake) (text : List Char) : String :=
  let spans := m.span :: m.other.toList
  let error := s!"error: {m.kind.message}"
  let title := "regex parse error:"
  if text.contains '\n' then
    let pieces := lines text
    let count := pieces.length + if text.getLast? = some '\n' then 1 else 0
    let width := if count ≤ 1 then none else some (decimal count).length
    let rule := String.ofList (List.replicate 79 '~')
    let far := spans.filterMap fun s =>
      let (first, column) := position text s.first
      let (last, columnAfter) := position text s.last
      if first = last then none
      else
        let left := s!"on line {decimal (first + 1)} (column {decimal (column + 1)})"
        some s!"{left} through line {decimal (last + 1)} (column {decimal columnAfter})"
    join "\n" ([title, rule] ++ shownLines text width spans 0 pieces ++ [rule] ++ far ++ [error])
  else join "\n" ([title] ++ shownLines text none spans 0 [text] ++ [error])

end Mistake

end Testbed.Text.Pattern
