/-!
# Splitting a line into words

The word splitting and quote removal of the POSIX shell, without expansions. Blanks, tabs and line
feeds separate words; single quotes keep everything up to the next one; between double quotes a
backslash escapes only `$`, `` ` ``, `"`, itself and a line feed; elsewhere it keeps the next
character. A `#` at the beginning of a word starts a comment, which the end of the line ends.
A quote that is never closed makes the line unreadable.
-/
namespace Testbed.Shell

/-- Where the reader of a line stands. -/
inductive Reading
  | between
  | betweenEscape
  | word
  | wordEscape
  | single
  | double
  | doubleEscape
  | comment
  deriving DecidableEq, Repr

/-- The characters that separate words. -/
def isSeparator (c : Char) : Bool := c = ' ' || c = '\t' || c = '\n'

/-- The characters that a backslash escapes between double quotes. -/
def isEscapable (c : Char) : Bool := c = '$' || c = '\x60' || c = '"' || c = '\\'

/-- Reads on from a state in which `word` holds the characters of the word begun, the last one
first. The words found are in order. -/
def splitFrom : Reading → List Char → List Char → Option (List (List Char))
  | .between, _, [] => some []
  | .between, word, c :: rest =>
    if c = '\'' then splitFrom .single word rest
    else if c = '"' then splitFrom .double word rest
    else if c = '\\' then splitFrom .betweenEscape word rest
    else if isSeparator c then splitFrom .between word rest
    else if c = '#' then splitFrom .comment word rest
    else splitFrom .word (c :: word) rest
  | .betweenEscape, word, [] => some [('\\' :: word).reverse]
  | .betweenEscape, word, c :: rest =>
    if c = '\n' then splitFrom .between word rest else splitFrom .word (c :: word) rest
  | .word, word, [] => some [word.reverse]
  | .word, word, c :: rest =>
    if c = '\'' then splitFrom .single word rest
    else if c = '"' then splitFrom .double word rest
    else if c = '\\' then splitFrom .wordEscape word rest
    else if isSeparator c then (splitFrom .between [] rest).map (word.reverse :: ·)
    else splitFrom .word (c :: word) rest
  | .wordEscape, word, [] => some [('\\' :: word).reverse]
  | .wordEscape, word, c :: rest =>
    if c = '\n' then splitFrom .word word rest else splitFrom .word (c :: word) rest
  | .single, _, [] => none
  | .single, word, c :: rest =>
    if c = '\'' then splitFrom .word word rest else splitFrom .single (c :: word) rest
  | .double, _, [] => none
  | .double, word, c :: rest =>
    if c = '"' then splitFrom .word word rest
    else if c = '\\' then splitFrom .doubleEscape word rest
    else splitFrom .double (c :: word) rest
  | .doubleEscape, _, [] => none
  | .doubleEscape, word, c :: rest =>
    if c = '\n' then splitFrom .double word rest
    else if isEscapable c then splitFrom .double (c :: word) rest
    else splitFrom .double (c :: '\\' :: word) rest
  | .comment, _, [] => some []
  | .comment, word, c :: rest =>
    if c = '\n' then splitFrom .between word rest else splitFrom .comment word rest

/-- The words of a line, or nothing if a quote is left open. -/
def splitChars (line : List Char) : Option (List (List Char)) := splitFrom .between [] line

/-- `splitChars` on strings. -/
def split (line : String) : Option (List String) :=
  (splitChars line.toList).map (·.map String.ofList)

end Testbed.Shell
