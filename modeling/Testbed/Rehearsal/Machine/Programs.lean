import Testbed.Rehearsal.Machine.Kernel
import Testbed.Rehearsal.Machine.Shell.Invocation
import Testbed.Rehearsal.Machine.Tool.Calculation
import Testbed.Rehearsal.Machine.Tool.Comparing
import Testbed.Rehearsal.Machine.Tool.Digest
import Testbed.Rehearsal.Machine.Tool.Dump
import Testbed.Rehearsal.Machine.Tool.Fields
import Testbed.Rehearsal.Machine.Tool.Finding
import Testbed.Rehearsal.Machine.Tool.Grep
import Testbed.Rehearsal.Machine.Tool.Listing
import Testbed.Rehearsal.Machine.Tool.Pieces
import Testbed.Rehearsal.Machine.Tool.Sed
import Testbed.Rehearsal.Machine.Tool.Sorting
import Testbed.Rehearsal.Machine.Tool.Starting
import Testbed.Rehearsal.Machine.Tool.Transfer
/-!
# The programs of a machine

Which programs there are, and how one of them takes the place of another.
-/
namespace Testbed.Rehearsal.Machine

/-- The tools by their names. -/
def tools : List (String × Tool) :=
  [Tool.plainTools, Tool.readingTools, Tool.searchTools, Tool.sortingTools, Tool.fieldTools,
    Tool.editingTools, Tool.placeTools, Tool.transferTools, Tool.listingTools,
    Tool.comparingTools, Tool.startingTools, Tool.calculationTools,
    Tool.findingTools, Tool.dumpTools, Tool.digestTools, Tool.pieceTools].flatten

def isShellName (name : String) : Bool := name = "sh" || name = "dash"

def isProgram (name : String) : Bool := isShellName name || (tools.lookup name).isSome

/-- The program that a script names in its first line, and the argument that it gives it. -/
def interpreter? (text : List Char) : Option (String × List String) :=
  match text with
  | '#' :: '!' :: rest =>
    let line := (rest.takeWhile (· ≠ '\n')).dropWhile fun c => c = ' ' || c = '\t'
    let path := line.takeWhile fun c => c ≠ ' ' && c ≠ '\t'
    let argument := (line.drop path.length).dropWhile fun c => c = ' ' || c = '\t'
    let argument := (argument.reverse.dropWhile fun c => c = ' ' || c = '\t').reverse
    if path.isEmpty then none
    else some (String.ofList path, if argument.isEmpty then [] else [String.ofList argument])
  | _ => none

/-- How many programs may take the place of one another. -/
def launchDepth : Nat := 10000

/-- Puts the program at a path in the place of the one that runs. -/
def launch : Nat → Launch
  | 0, _, _, _ => return .badFormat
  | fuel + 1, path, environment, arguments => do
    match ← ask (.status path) with
    | .error e => return e
    | .ok s =>
      if s.kind ≠ .file || s.mode &&& 0o111 = 0 then return .denied
      let name := ((Text.cutAt '/' path.toList).getLast?.map String.ofList).getD ""
      if s.identity = path && isProgram name then
        ask (.become name)
        let code ← if isShellName name then Shell.program (launch fuel) environment arguments
          else match tools.lookup name with
            | some tool => tool.toTask (launch fuel) environment arguments
            | none => pure 127
        nomatch ← ask (.exit code)
      else
        match ← ask (.open path .read) with
        | .error e => return e
        | .ok fd =>
          let text ← Shell.readAll fd 1000000 []
          let _ ← ask (.close fd)
          match interpreter? text with
          | some (program, argument) =>
            launch fuel program environment (program :: argument ++ path :: arguments.tail)
          | none => return .badFormat

end Testbed.Rehearsal.Machine
