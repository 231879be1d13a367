import Testbed.Rehearsal.Machine.Shell.Engine
import Testbed.Rehearsal.Machine.Shell.Expansion
/-!
# Where the script goes on

The commands of the shell that leave a part of the script, or read another one.
-/
namespace Testbed.Rehearsal.Machine.Shell

open Sh

/-- The status that a command names, or that of the last command before it. -/
def namedStatus (arguments : List String) : Sh Nat := do
  match arguments with
  | text :: _ => number text
  | [] =>
    let s ← get
    return s.before.getD s.status

def exitCommand : Builtin := fun _ _ arguments => do
  let status ← namedStatus arguments
  modify fun s => { s with status, before := s.before.map fun _ => status }
  throw .leave

def returnCommand : Builtin := fun _ _ arguments => do
  setStatus (← namedStatus arguments)
  throw .return_

def leaveLoops (jump : Nat → Jump) : Builtin := fun _ _ arguments => do
  let levels ← match arguments with
    | text :: _ => number text
    | [] => pure 1
  if levels = 0 then fail ("Illegal number: " ++ Text.join " " (arguments.take 1))
  match min levels (← get).loops with
  | 0 => return 0
  | levels => do
    setStatus 0
    throw (jump levels)

def evalCommand : Builtin := fun engine tested arguments =>
  if arguments.isEmpty then return 0
  else engine.evaluate tested (Text.join " " arguments)

/-- Does something as a part that `return` leaves. -/
def untilReturn (body : Sh Nat) : Sh Nat := do
  modify fun s => { s with calls := s.calls + 1 }
  let result ← caught body
  modify fun s => { s with calls := s.calls - 1 }
  match result with
  | .ok status => return status
  | .error .return_ => return (← get).status
  | .error jump => throw jump

def dotCommand : Builtin := fun engine _ arguments => do
  let (_, arguments) ← letterOptions [] arguments
  match arguments with
  | [] => return 0
  | name :: _ =>
    let path ← if name.toList.contains '/' then pure name
      else
        let mut found := none
        for path in candidates (((← get).value? "PATH").getD standardSearch) name do
          if found.isNone then
            match ← sys (.status path) with
            | .ok { kind := .file, .. } => found := some path
            | _ => pure ()
        match found with
        | some path => pure path
        | none => fail s!"{name}: not found"
    match ← sys (.open path .read) with
    | .error e => fail s!"cannot open {path}: {noFileWords e}"
    | .ok fd =>
      let text ← task (readAll fd 1000000 [])
      let _ ← sys (.close fd)
      let before := (← get).command
      modify fun s => { s with command := some path }
      let status ← untilReturn (engine.evaluate false (String.ofList text))
      modify fun s => { s with command := before }
      return status

def execCommand : Builtin := fun engine _ arguments => do
  let (_, arguments) ← letterOptions [] arguments
  if arguments.isEmpty then return 0
  replaceBy engine arguments

end Testbed.Rehearsal.Machine.Shell
