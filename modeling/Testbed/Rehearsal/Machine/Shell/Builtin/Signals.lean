import Testbed.Rehearsal.Machine.Shell.Engine
import Testbed.Rehearsal.Machine.Shell.Waiting
/-!
# Processes and signals

The commands of the shell for jobs and other processes, and for the signals that come.
-/
namespace Testbed.Rehearsal.Machine.Shell

open Sh

/-- The job that an argument names. -/
def jobNamed (text : String) : Sh Job := do
  match (← get).jobs.named text with
  | .ok job => return job
  | .error reason => fail reason

def killCommand : Builtin := fun _ _ arguments => do
  let usage {α : Type} : Sh α := fail
    ("Usage: kill [-s sigspec | -signum | -sigspec] [pid | job]... or\n" ++ "kill -l [exitstatus]")
  if arguments.isEmpty then usage
  let direct := (arguments.head?.bind fun text =>
    match text.toList with
    | '-' :: rest => signal? (String.ofList rest)
    | _ => none)
  let (signal, listing, targets) ← match direct with
    | some n => pure (some n, false, arguments.tail)
    | none => do
      let (found, rest) ← options ['l'] ['s'] (arguments.length + 1) arguments
      let signal ← match found.reverse.lookup 's' with
        | some text =>
          match signal? text with
          | some n => pure (some n)
          | none => fail s!"invalid signal number or name: {text}"
        | none => pure none
      pure (signal, found.any (·.1 = 'l'), rest)
  if listing then
    if signal.isSome then usage
    match targets with
    | [] =>
      say ("0\n" ++ Text.join "" ((List.range 64).map fun n => signalName (n + 1) ++ "\n"))
      return 0
    | text :: _ =>
      let n ← number text
      let n := if 128 < n then n - 128 else n
      if n = 0 || 64 < n then fail s!"invalid signal number or exit status: {text}"
      say (signalName n ++ "\n")
      return 0
  else if targets.isEmpty then usage
  else
    let mut status := 0
    for text in targets do
      let target : Int ← match text.toList with
        | '%' :: _ => do pure (-((← jobNamed text).leader : Nat))
        | '-' :: digits => do pure (-(← number (String.ofList digits) : Nat))
        | _ => do pure (← number text : Nat)
      match ← sys (.kill target (signal.getD 15)) with
      | .ok _ => pure ()
      | .error e =>
        complain s!"{e.words.1}\n"
        status := 1
    return status

/-- Says what is to be done about signals, or arranges it. -/
def trapCommand : Builtin := fun _ _ arguments => do
  let (_, arguments) ← letterOptions [] arguments
  match arguments with
  | [] =>
    let rows := (← get).traps.mergeSort fun a b => a.1 ≤ b.1
    say (Text.join "" (rows.map fun (n, action) => s!"trap -- {quoted action} {signalName n}\n"))
    return 0
  | first :: rest =>
    let plain := rest.isEmpty || (Text.digits? first.toList).isSome
    let action := if plain || first = "-" then none else some first
    go action (if plain then arguments else rest)
where
  go (action : Option String) : List String → Sh Nat
    | [] => return 0
    | name :: rest => do
      match signal? name with
      | none =>
        let _ ← write 2 s!"trap: {name}: bad trap\n"
        return 1
      | some n =>
        modify fun s =>
          { s with traps := s.traps.filter (·.1 ≠ n) ++ (action.map (n, ·)).toList }
        unless n = 0 || (← get).deaf.contains n do
          let _ ← sys (.arrange n (match action with
            | none => .standard
            | some text => if text.isEmpty then .ignored else .caught))
        go action rest

/-- The status of a wait that a signal ends. -/
def disturbedWait : Sh Nat := do
  let signals ← sys .caught
  modify fun s => { s with pending := s.pending ++ signals }
  return 128 + signals.head?.getD 0

/-- Marks a job as one that was waited for. -/
def markWaited (number : Nat) : Sh Unit := modify fun s =>
  { s with jobs := s.jobs.map fun j => if j.number = number then { j with waited := true } else j }

/-- Waits for all jobs. -/
def waitForAll : Nat → Sh Nat
  | 0 => return 0
  | fuel + 1 => do
    for job in (← get).jobs.takeWhile (·.isDone) do markWaited job.number
    if (← get).jobs.all (·.isDone) then return 0
    match ← sys (.wait none true) with
    | .ended pid status => do
      noteEnd pid status
      waitForAll fuel
    | .nobody => return 0
    | .disturbed => disturbedWait

def waitCommand : Builtin := fun _ _ arguments => do
  let (_, arguments) ← letterOptions [] arguments
  if arguments.isEmpty then waitForAll waitFuel
  else go 127 arguments
where
  go (status : Nat) : List String → Sh Nat
    | [] => return status
    | text :: rest => do
      let job ← if text.toList.head? = some '%' then some <$> jobNamed text
        else do
          let pid ← number text
          pure ((← get).jobs.find? (·.last = pid))
      match job with
      | none => go status rest
      | some job =>
        unless ← waitForJob job.number true waitFuel do return ← disturbedWait
        markWaited job.number
        go (((← get).jobs.numbered? job.number).getD job).status rest

/-- Says what jobs do. Those that have ended are forgotten once that was said. -/
def jobsCommand : Builtin := fun _ _ arguments => do
  let (letters, arguments) ← letterOptions ['l', 'p'] arguments
  let how := letters.getLast?
  let tell (job : Job) : Sh Unit := do
    let place := (← get).jobs.findIdx (·.number = job.number)
    if how = some 'p' then say (Text.decimal job.leader ++ "\n")
    else
      say (job.line (Jobs.sign place) (how = some 'l'))
      if job.isDone then modify fun s => { s with jobs := s.jobs.forget job.number }
  if arguments.isEmpty then
    noteEnds waitFuel
    for job in (← get).jobs do tell job
  else for text in arguments do tell (← jobNamed text)
  return 0

/-- Commands that move jobs between the foreground and the background. No job can be moved. -/
def moveCommand : Builtin := fun _ _ arguments => do
  let (_, arguments) ← letterOptions [] arguments
  let _ ← jobNamed (arguments.head?.getD "%")
  let name := arguments.head?.getD "(null)"
  fail s!"job {name} not created under job control"

def timesCommand : Builtin := fun _ _ _ => do
  say "0m0.000000s 0m0.000000s\n0m0.000000s 0m0.000000s\n"
  return 0

end Testbed.Rehearsal.Machine.Shell
