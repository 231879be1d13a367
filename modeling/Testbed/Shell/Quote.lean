import Testbed.Text.Pieces
/-!
# Quoting words for a shell

A word made of harmless characters stands for itself. Any other word is put between single
quotes, and each single quote inside it is written as `'\''`: the quotes are closed, a quote
escaped by a backslash follows, and the quotes are opened again. The empty word is `''`.
-/
namespace Testbed.Shell

/-- The characters that a shell may read as more than themselves. -/
def special : List Char :=
  ['|', '&', ';', '<', '>', '(', ')', '$', '\x60', '\\', '"', '\'', ' ', '\t', '\n', '*', '?', '[',
   '#', '~', '=', '%']

/-- Whether the word has to be quoted. -/
def needsQuotes (word : List Char) : Bool := word.isEmpty || word.any special.contains

/-- The characters of a word between single quotes. -/
def escape : List Char → List Char
  | [] => []
  | '\'' :: rest => '\'' :: '\\' :: '\'' :: '\'' :: escape rest
  | c :: rest => c :: escape rest

/-- The word as a shell reads it back. -/
def quoteChars (word : List Char) : List Char :=
  if needsQuotes word then '\'' :: escape word ++ ['\''] else word

/-- The words quoted, with a blank between two neighbours. -/
def joinChars (words : List (List Char)) : List Char := Text.joinBy [' '] (words.map quoteChars)

/-- `quoteChars` on strings. -/
def quote (word : String) : String := String.ofList (quoteChars word.toList)

/-- `joinChars` on strings. -/
def joinWords (words : List String) : String := String.ofList (joinChars (words.map String.toList))

end Testbed.Shell
