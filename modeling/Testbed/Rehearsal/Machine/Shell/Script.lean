/-!
# Scripts

What a text for the shell means: commands of words and redirections, and how they are put together.
A word is a row of pieces, some of which are known only when the command is run.
-/
namespace Testbed.Rehearsal.Machine.Shell

/-- What is done with the value of a parameter. -/
inductive Use
  | plain
  | length
  /-- Something else stands in for a value that is not there, or takes its place: `-`, `=`, `?` or
  `+`. With `blank`, an empty value is not there. -/
  | substitute (how : Char) (blank : Bool)
  /-- A part that a pattern matches is taken off. -/
  | trim (front longest : Bool)
  /-- No use that is known. -/
  | unknown
  deriving DecidableEq, Repr, Inhabited

/-- What a redirection does. -/
inductive Way
  | read
  | write
  /-- Writes even where files are not to be lost. -/
  | force
  | append
  | both
  /-- Joins a descriptor to another one. -/
  | join
  /-- A text that stands in the script. -/
  | document
  deriving DecidableEq, Repr, Inhabited

mutual

/-- A part of a word. What is not quoted is cut into fields once it is known. -/
inductive Piece
  | text (chars : List Char) (quoted : Bool)
  /-- Pieces in double quotes, which are a field even if they come to nothing. -/
  | quotes (inner : List Piece)
  | parameter (name : String) (use : Use) (word : List Piece) (quoted : Bool)
  /-- What a script writes. -/
  | output (script : Script) (quoted : Bool)
  | arithmetic (inner : List Piece) (quoted : Bool)

inductive Redirect
  | mk (fd : Nat) (way : Way) (target : List Piece)

inductive Script
  | nothing
  | simple (line : Nat) (assignments : List (String × List Piece)) (words : List (List Piece))
      (redirects : List Redirect)
  | sequence (first second : Script)
  /-- The second runs if the first succeeds. -/
  | both (first second : Script)
  /-- The second runs if the first fails. -/
  | either (first second : Script)
  | negation (body : Script)
  /-- Each command reads what the one before it writes. -/
  | pipe (stages : List Script)
  | background (body : Script)
  | choice (condition yes no : Script)
  | loop (untilTrue : Bool) (condition body : Script)
  /-- Once for each item; without items, for each argument. -/
  | each (line : Nat) (name : String) (items : Option (List (List Piece))) (body : Script)
  | select (line : Nat) (word : List Piece) (cases : List (List (List Piece) × Script))
  | subshell (line : Nat) (body : Script) (redirects : List Redirect)
  | redirected (line : Nat) (body : Script) (redirects : List Redirect)
  | define (name : String) (body : Script)

end

abbrev Word := List Piece

instance : Inhabited Script := ⟨.nothing⟩

instance : Inhabited Piece := ⟨.text [] false⟩

instance : Inhabited Redirect := ⟨.mk 0 .read []⟩

/-- The text of a word of which nothing is quoted and all is known. -/
def plainText? : Word → Option (List Char)
  | [] => some []
  | .text cs false :: rest => (plainText? rest).map (cs ++ ·)
  | _ => none

/-- Pieces in front of others; texts that belong together become one. -/
def Piece.cons : Piece → Word → Word
  | .text a p, .text b q :: rest =>
    if p = q then .text (a ++ b) p :: rest else .text a p :: .text b q :: rest
  | p, rest => p :: rest

def isNameStart (c : Char) : Bool := c.isAlpha || c = '_'

def isNameChar (c : Char) : Bool := c.isAlphanum || c = '_'

/-- Whether a text can be the name of a variable. -/
def isName (cs : List Char) : Bool := cs.head?.any isNameStart && cs.all isNameChar

/-- The name and the value of a word that sets a variable. -/
def assignment? : Word → Option (String × Word)
  | .text cs false :: rest =>
    let name := cs.takeWhile (· ≠ '=')
    match cs.dropWhile (· ≠ '=') with
    | '=' :: value =>
      if isName name then
        some (String.ofList name, if value.isEmpty then rest else .text value false :: rest)
      else none
    | _ => none
  | _ => none

end Testbed.Rehearsal.Machine.Shell
