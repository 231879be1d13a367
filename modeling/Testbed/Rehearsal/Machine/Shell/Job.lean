import Testbed.Rehearsal.Machine.System
import Testbed.Text.Numeral
/-!
# Jobs

The processes that a shell has started and not yet forgotten. What was started together is one job.
Jobs have numbers, the smallest that are free; a job that has ended and was waited for keeps its
number only until another one needs it. The job that was started last is the current one.
-/
namespace Testbed.Rehearsal.Machine.Shell

/-- What a process leaves as its status. -/
def statusNumber : ExitStatus → Nat
  | .code n => n
  | .signal n => 128 + n

structure Job where
  number : Nat
  /-- Its processes in their order, and how those have ended that have. -/
  processes : List (Nat × Option ExitStatus)
  /-- Whether it was waited for. -/
  waited : Bool := false
  deriving DecidableEq, Repr

namespace Job

def isDone (j : Job) : Bool := j.processes.all (·.2.isSome)

/-- Whether a process is one of the job. -/
def has (j : Job) (pid : Nat) : Bool := j.processes.any (·.1 = pid)

/-- The first process. -/
def leader (j : Job) : Nat := (j.processes.head?.map (·.1)).getD 0

/-- The last process, which the job has its status from. -/
def last (j : Job) : Nat := (j.processes.getLast?.map (·.1)).getD 0

/-- How the last process has ended. -/
def ended? (j : Job) : Option ExitStatus := j.processes.getLast?.bind (·.2)

def status (j : Job) : Nat := (j.ended?.map statusNumber).getD 0

/-- Takes down how a process has ended. -/
def note (pid : Nat) (status : ExitStatus) (j : Job) : Job :=
  { j with processes := j.processes.map fun p => if p.1 = pid then (pid, some status) else p }

/-- What the job does, or how it ended. -/
def condition (j : Job) : String :=
  match j.isDone, j.ended? with
  | true, some (.code 0) => "Done"
  | true, some (.code n) => s!"Done({Text.decimal n})"
  | true, some (.signal n) => signalWords n
  | _, _ => "Running"

/-- A line about the job. `sign` marks the current job and the one before it. -/
def line (sign : String) (withPid : Bool) (j : Job) : String :=
  let id := if withPid then Text.decimal j.leader ++ " " else ""
  let front := s!"[{Text.decimal j.number}] {sign} {id}{j.condition}"
  let gap := String.ofList (List.replicate (max 1 (33 - front.length)) ' ')
  front ++ gap ++ Text.join "" (j.processes.tail.map fun _ => " | ") ++ "\n"

end Job

/-- Jobs, the current one first. -/
abbrev Jobs := List Job

namespace Jobs

/-- Whether a number belongs to a job that still needs it. -/
def isTaken (jobs : Jobs) (n : Nat) : Bool :=
  jobs.any fun j => j.number = n && !(j.isDone && j.waited)

/-- Starts a job with the smallest number that is free. -/
def start (jobs : Jobs) (pids : List Nat) : Nat × Jobs :=
  let n := (((List.range jobs.length).map (· + 1)).find? (!isTaken jobs ·)).getD (jobs.length + 1)
  (n, { number := n, processes := pids.map (·, none) } :: jobs.filter (·.number ≠ n))

def forget (jobs : Jobs) (number : Nat) : Jobs := jobs.filter (·.number ≠ number)

def numbered? (jobs : Jobs) (number : Nat) : Option Job := jobs.find? (·.number = number)

/-- The mark of a job by its place among the jobs. -/
def sign : Nat → String
  | 0 => "+"
  | 1 => "-"
  | _ => " "

/-- The job that a text names, or why it names none. -/
def named (jobs : Jobs) (text : String) : Except String Job :=
  let unknown := s!"No such job: {text}"
  match text.toList with
  | ['%'] => jobs.head?.elim (.error "No current job") .ok
  | ['%', '+'] => jobs.head?.elim (.error "No current job") .ok
  | ['%', '%'] => jobs.head?.elim (.error "No current job") .ok
  | ['%', '-'] => jobs.tail.head?.elim (.error "No previous job") .ok
  | '%' :: digits => ((Text.digits? digits).bind jobs.numbered?).elim (.error unknown) .ok
  | _ => .error unknown

end Jobs

end Testbed.Rehearsal.Machine.Shell
