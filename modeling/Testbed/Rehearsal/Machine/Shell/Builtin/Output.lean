import Testbed.Rehearsal.Machine.Printf
import Testbed.Rehearsal.Machine.Shell.Condition
import Testbed.Rehearsal.Machine.Shell.Engine
/-!
# Output and conditions

The commands of the shell that say something, or test a condition.
-/
namespace Testbed.Rehearsal.Machine.Shell

open Sh

def echoCommand : Builtin := fun _ _ arguments => do
  let (silent, arguments) := match arguments with
    | "-n" :: rest => (true, rest)
    | rest => (false, rest)
  let text := (Text.join " " arguments).toList
  let (text, stopped) := Printf.unescape {} (text.length + 1) text
  say (String.ofList text ++ if silent || stopped then "" else "\n")
  return 0

/-- How the shell tells of arguments that do not fit a format. -/
def printfManner : Printf.Manner where
  noNumber text := s!"{text}: expected numeric value"
  halfNumber text := s!"{text}: not completely converted"
  outOfRange text := s!"{text}: Numerical result out of range"
  badDirective text :=
    if text = "%" then "missing format character" else s!"{text}: invalid directive"

def printfCommand : Builtin := fun _ _ arguments => do
  let (_, arguments) ← letterOptions [] arguments
  match arguments with
  | [] => fail "usage: printf format [arg ...]"
  | format :: arguments =>
    let p := Printf.run printfManner format arguments
    for text in p.complaints do complain text
    say (String.ofList p.text)
    return if p.broken then 2 else if p.complaints.isEmpty then 0 else 1

/-- How the shell tells of arguments that are no condition. -/
def conditionManner : Condition.Manner where
  noNumber text := s!"Illegal number: {text}"
  noOperand operator := s!"{operator}: argument expected"
  noOperator text := s!"{text}: unexpected operator"
  noClosing := "closing paren expected"
  absentIsOld := false

def conditionOf (arguments : List String) : Sh Nat := do
  match ← task (Condition.decideIn conditionManner arguments) with
  | .ok true => return 0
  | .ok false => return 1
  | .error text => fail text

def testCommand : Builtin := fun _ _ arguments => conditionOf arguments

def bracketCommand : Builtin := fun _ _ arguments =>
  if arguments.getLast? = some "]" then conditionOf arguments.dropLast else fail "missing ]"

end Testbed.Rehearsal.Machine.Shell
