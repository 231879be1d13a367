import Testbed.Rehearsal.Machine.Shell.State
/-!
# Waiting for processes

A shell waits for any of its children and takes down how they end, until the job that it waits for
has ended.
-/
namespace Testbed.Rehearsal.Machine.Shell

open Sh

/-- Tells of a process that a signal has ended. -/
def tellEnd : ExitStatus → Sh Unit
  | .signal n => do
    unless n = 2 || n = 13 do
      let _ ← write 2 s!"{signalWords n}\n"
  | .code _ => return ()

/-- Takes down how a process has ended. -/
def noteEnd (pid : Nat) (status : ExitStatus) : Sh Unit :=
  modify fun s => { s with jobs := s.jobs.map (Job.note pid status) }

/-- Takes down how those children have ended that have, without waiting. -/
def noteEnds : Nat → Sh Unit
  | 0 => return ()
  | fuel + 1 => do
    match ← sys .reap with
    | some (pid, status) =>
      noteEnd pid status
      noteEnds fuel
    | none => return ()

/-- Waits until a job has ended; whether no signal disturbed that. -/
def waitForJob (number : Nat) (breakable : Bool) : Nat → Sh Bool
  | 0 => return true
  | fuel + 1 => do
    match (← get).jobs.numbered? number with
    | none => return true
    | some job =>
      if job.isDone then return true
      match ← sys (.wait none breakable) with
      | .ended pid status =>
        noteEnd pid status
        if job.has pid then tellEnd status
        waitForJob number breakable fuel
      | .nobody => return true
      | .disturbed => return false

/-- How many children may end while the shell waits for one. -/
def waitFuel : Nat := 1000000

def startJob (pids : List Nat) : Sh Nat := do
  let s ← get
  let (number, jobs) := s.jobs.start pids
  set { s with jobs }
  return number

/-- Waits for processes in the foreground; the status of the last of them. -/
def await (pids : List Nat) : Sh Nat := do
  let number ← startJob pids
  let _ ← waitForJob number false waitFuel
  let s ← get
  set { s with jobs := s.jobs.forget number }
  return ((s.jobs.numbered? number).map (·.status)).getD 0

end Testbed.Rehearsal.Machine.Shell
