import Testbed.Process
/-!
# Children

Processes that the operating system runs for us. Once a child was seen to have exited, that is
remembered, and the system is not asked about it again: its process id may by then belong to
another process. The end of a child is awaited by looking for it at short intervals.

| here | in the program |
| --- | --- |
| `Child` and its operations | `ChildProcess` |
| `release` | what is done when it is dropped |
| `Output.ofFinished` | `output` of `SystemRunner` |
-/
namespace Testbed

/-- How the operating system tells that a process ended. -/
inductive ExitStatus
  | code (n : Nat)
  | signal (n : Nat)
  deriving DecidableEq, Repr

/-- The exit code; a process that a signal ended has none of its own. -/
def ExitStatus.toCode : ExitStatus → Int
  | .code n => n
  | .signal _ => -1

/-- What is kept of a finished command. -/
def Output.ofFinished (status : ExitStatus) (output errors : List UInt8) : Output :=
  ⟨status.toCode, output ++ errors⟩

/-- A process that was started, and whether it was seen to have exited. -/
structure Child where
  process : Process
  exited : Bool := false
  deriving DecidableEq, Repr

namespace Child

/-- What the operating system does with a child. -/
inductive Request
  /-- Tells whether it exited, without waiting, and forgets it if it did. -/
  | poll (p : Process)
  | terminate (p : Process)
  | kill (p : Process)
  /-- Waits until it exited, and forgets it. -/
  | reap (p : Process)
  | sleep (d : Duration)

abbrev Answer : Request → Type
  | .poll _ => Except IoError Bool
  | .terminate _ => Except IoError Unit
  | .kill _ => Except IoError Unit
  | .reap _ => Except IoError Unit
  | .sleep _ => Unit

def interface : Interface := ⟨Request, Answer⟩

/-- What is done to a child, up to the first failure. -/
abbrev Action (α : Type) := StateT Child (ExceptT IoError (Program interface)) α

def ask (r : Request) : Program interface (Answer r) := Program.request (I := interface) r

/-- A request that may fail. -/
def attempt {α : Type} (p : Program interface (Except IoError α)) : Action α :=
  StateT.lift (ExceptT.mk p)

def hasExited : Action Bool := do
  let c ← get
  if c.exited then return true
  let exited ← attempt (ask (.poll c.process))
  set { c with exited }
  return exited

/-- Asks the child to exit, unless it did. -/
def terminate : Action Unit := do
  unless ← hasExited do attempt (ask (.terminate (← get).process))

/-- Kills the child, unless it exited. -/
def kill : Action Unit := do
  unless ← hasExited do
    attempt (ask (.kill (← get).process))
    attempt (ask (.reap (← get).process))
    modify fun c => { c with exited := true }

/-- The time between two looks at a child. -/
def interval : Duration := .ofMillis 50

/-- Looks for the end of the child until `budget` is used up. -/
def waitWithin (budget : Duration) : Action Bool := do
  if ← hasExited then return true
  else if _h : budget.nanos = 0 then return false
  else
    StateT.lift (ExceptT.lift (ask (.sleep interval)))
    waitWithin (budget.less interval)
termination_by budget.nanos
decreasing_by
  simp only [Duration.less, interval, Duration.ofMillis, Duration.millisecond]
  omega

/-- Waits for the end of the child, for `timeout` at most; whether it came. -/
def waitExit (timeout : Duration) : Action Bool := waitWithin timeout

/-- The child is given up: if it has exited it is forgotten, otherwise it goes on alone. -/
def release (c : Child) : Program interface Unit := do
  let _ ← ask (.poll c.process)

/-! ## Children by their handles -/

/-- Does something to one of the children. -/
def on {α : Type} (p : Process) (act : Action α) :
    StateT (List Child) (Program interface) (Except IoError α) := fun children => do
  let child := (children.find? (·.process = p)).getD { process := p }
  match ← (act child).run with
  | .ok (a, child) => return (.ok a, child :: children.filter (·.process ≠ p))
  | .error e => return (.error e, children)

end Child

end Testbed
