import Testbed.Process
import Testbed.Text.Pieces
/-!
# Rules for commands

In a rehearsal commands do not run; rules say what comes of them. The first rule whose conditions
all hold answers a command, its n-th command with its n-th response and every later one with its
last. A command that no rule covers succeeds and prints nothing.
-/
namespace Testbed.Rehearsal

/-- What comes of a command. -/
structure Response where
  code : Int := 0
  output : List UInt8 := []
  /-- What the command prints to standard error. -/
  errors : List UInt8 := []
  /-- The signal that the command ends by, in place of its code. -/
  signal : Option Nat := none
  /-- Why the command cannot be started at all. -/
  ioError : Option String := none
  deriving Repr, Inhabited

/-- A response and the commands that it is for. -/
structure Rule where
  /-- Some argument, or the program, is this text. -/
  arg : Option String := none
  /-- The last argument is this text. -/
  last : Option String := none
  /-- The last argument begins with this text. -/
  head : Option String := none
  /-- The last argument holds this text. -/
  part : Option String := none
  responses : List Response := []
  /-- How many commands it answered so far. -/
  used : Nat := 0
  deriving Repr, Inhabited

namespace Rule

/-- Whether all conditions hold of a command. -/
def covers (r : Rule) (argv : List String) : Bool :=
  let final := (argv.getLast?.getD "").toList
  r.arg.all argv.contains &&
    r.last.all (fun s => s.toList = final) &&
    r.head.all (fun s => Text.startsWith s.toList final) &&
    r.part.all (fun s => Text.occursIn s.toList final)

/-- The response to the next command. -/
def next (r : Rule) : Response := (r.responses[r.used]?).getD (r.responses.getLast?.getD {})

end Rule

/-- The response to a command, and the rules after it. -/
def answerBy (argv : List String) : List Rule → Response × List Rule
  | [] => ({}, [])
  | r :: rest =>
    if r.covers argv then (r.next, { r with used := r.used + 1 } :: rest)
    else
      let (response, rest) := answerBy argv rest
      (response, r :: rest)

end Testbed.Rehearsal
