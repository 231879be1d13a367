import Testbed.Rehearsal.Machine.Shell.Script
import Testbed.Text.Numeral
/-!
# The text of a script

What is left of a text while it is read, the mistakes that may be found in it, and the steps that
reading it takes.
-/
namespace Testbed.Rehearsal.Machine.Shell

/-- A mistake in a script. -/
structure SyntaxError where
  line : Nat
  message : String
  deriving Repr, Inhabited

inductive Token
  | word (w : Word) (quoted : Bool)
  | keyword (text : String)
  | operator (text : String)
  | redirect (fd : Nat) (way : Way) (tabs : Bool)
  | newline
  | finish

/-- The text of an alias that stands in the rest of a source. -/
structure AliasText where
  name : String
  /-- How long the rest is behind the text. -/
  behind : Nat
  /-- Whether the text ends with a blank, so that the next word may be an alias too. -/
  chained : Bool

/-- What is left of a text. -/
structure Source where
  rest : List Char
  line : Nat := 1
  /-- The lines of here-documents that were taken out of the rest. -/
  skipped : Nat := 0
  /-- A token that was given back. -/
  pushed : Option Token := none
  /-- What names stand for where a command begins. -/
  aliases : List (String × String) := []
  /-- The texts of aliases that are being read. A name stands for nothing within its own text. -/
  texts : List AliasText := []

/-- More steps than reading the rest takes. -/
def Source.fuel (s : Source) : Nat :=
  (2 * s.rest.length + 10) * (s.aliases.foldl (fun n a => n + a.2.length) 1)

abbrev Parse (α : Type) := StateT Source (Except SyntaxError) α

namespace Parse

def fail {α : Type} (message : String) : Parse α := do
  throw { line := (← get).line, message := s!"Syntax error: {message}" }

def push (t : Token) : Parse Unit := modify fun s => { s with pushed := some t }

/-- The next character, without the line ends that a backslash makes nothing of. -/
def peek? : Parse (Option Char) := do
  let s ← get
  let s := joined (s.rest.length + 1) s
  set s
  return s.rest.head?
where
  joined : Nat → Source → Source
    | 0, s => s
    | fuel + 1, s =>
      match s.rest with
      | '\\' :: '\n' :: rest =>
        joined fuel { s with rest, line := s.line + 1 + s.skipped, skipped := 0 }
      | _ => s

/-- Takes the next character as it is. -/
def take? : Parse (Option Char) := do
  let s ← get
  match s.rest with
  | [] => return none
  | c :: rest =>
    if c = '\n' then set { s with rest, line := s.line + 1 + s.skipped, skipped := 0 }
    else set { s with rest }
    return some c

/-- Takes the next character if it is this one. -/
def accept (c : Char) : Parse Bool := do
  if (← peek?) = some c then
    let _ ← take?
    return true
  return false

end Parse

end Testbed.Rehearsal.Machine.Shell
