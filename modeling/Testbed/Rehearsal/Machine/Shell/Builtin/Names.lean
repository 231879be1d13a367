import Testbed.Rehearsal.Machine.Shell.Engine
import Testbed.Rehearsal.Machine.Shell.Reader
/-!
# What names stand for

The commands of the shell that tell what would be run for a name, and those for its aliases.
-/
namespace Testbed.Rehearsal.Machine.Shell

open Sh

/-- The order in which aliases are shown. -/
def aliasOrder (name : String) : Nat :=
  let front := (name.toList.head?.map (·.toNat * 16)).getD 0
  (name.toList.foldl (fun n c => n + c.toNat) front) % 39

/-- How an alias is shown. -/
def aliasText (name value : String) : String := s!"{name}={quoted value}"

def aliasCommand : Builtin := fun _ _ arguments => do
  if arguments.isEmpty then
    let rows := (← get).aliases.mergeSort fun a b => aliasOrder a.1 ≤ aliasOrder b.1
    say (Text.join "" (rows.map fun (name, value) => aliasText name value ++ "\n"))
    return 0
  let mut status := 0
  for argument in arguments do
    -- an equals sign at the beginning is part of the name
    let cs := argument.toList
    let front := (cs.drop 1).takeWhile (· ≠ '=')
    let name := String.ofList (cs.take 1 ++ front)
    match cs.drop (1 + front.length) with
    | _ :: value =>
      modify fun s => { s with aliases := replaceEntry name (String.ofList value) s.aliases }
    | [] =>
      match (← get).aliases.lookup name with
      | some value => say (aliasText name value ++ "\n")
      | none =>
        let _ ← write 2 s!"alias: {name} not found\n"
        status := 1
  return status

def unaliasCommand : Builtin := fun _ _ arguments => do
  let (letters, arguments) ← letterOptions ['a'] arguments
  if letters.contains 'a' then
    modify fun s => { s with aliases := [] }
    return 0
  let mut status := 0
  for name in arguments do
    if (← get).aliases.any (·.1 = name) then
      modify fun s => { s with aliases := s.aliases.filter (·.1 ≠ name) }
    else
      let _ ← write 2 s!"unalias: {name} not found\n"
      status := 1
  return status

/-- The commands of the shell whose failure does not end it. -/
def regularBuiltins : List String :=
  ["[", "alias", "bg", "cd", "chdir", "command", "echo", "false", "fc", "fg", "getopts", "hash",
   "jobs", "kill", "printf", "pwd", "read", "test", "true", "type", "ulimit", "umask",
   "unalias", "wait"]

/-- Says what a name stands for, in words or as it would be used. -/
def describe (name : String) (inWords : Bool) : Sh Nat := do
  let s ← get
  let tell (plain words : String) : Sh Nat := do
    say ((if inWords then s!"{name} is {words}" else plain) ++ "\n")
    return 0
  if keywords.contains name then tell name "a shell keyword"
  else if let some value := s.aliases.lookup name then
    tell ("alias " ++ aliasText name value) s!"an alias for {value}"
  else if specialBuiltins.contains name then tell name "a special shell builtin"
  else if s.functions.any (·.1 = name) then tell name "a shell function"
  else if regularBuiltins.contains name then tell name "a shell builtin"
  else
    let found ← match ← search name with
      | .ok path =>
        match ← sys (.status path) with
        | .ok _ => pure (some path)
        | .error _ => pure none
      | .error _ => pure none
    match found with
    | some path => tell path path
    | none =>
      if inWords then say s!"{name}: not found\n"
      return 127

def typeCommand : Builtin := fun _ _ arguments => do
  let mut status := 0
  for name in arguments do
    if (← describe name true) ≠ 0 then status := 127
  return status

def hashCommand : Builtin := fun _ _ arguments => do
  let (_, arguments) ← letterOptions ['r'] arguments
  let mut status := 0
  for name in arguments do
    let known := specialBuiltins.contains name || regularBuiltins.contains name
    unless known || (← get).functions.any (·.1 = name) do
      match ← search name with
      | .ok _ => pure ()
      | .error e =>
        complain s!"{name}: {notFoundWords e}"
        status := 1
  return status

end Testbed.Rehearsal.Machine.Shell
