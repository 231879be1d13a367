import Testbed.Duration
import Testbed.Log
import Testbed.Program
/-!
# Processes

What a finished command leaves behind, and the operations on a process that runs in the
background. A process is stopped gracefully: it is asked to exit, and killed if it is still there
after a grace period.

| here | in the program |
| --- | --- |
| `hasExited`, `terminate`, `kill`, `waitExit` | the operations of `ProcessHandle` |
| `stop` | `stop_process` |
| `Output` | `RawOutput` |
-/
namespace Testbed

/-- A failure reported by the operating system. -/
structure IoError where
  text : String
  deriving DecidableEq, Repr

/-- The exit code and the output of a finished command. -/
structure Output where
  code : Int
  /-- Standard output followed by standard error. -/
  bytes : List UInt8
  deriving DecidableEq, Repr

/-- A process in the background. The handle tells apart processes of one process id. -/
structure Process where
  handle : Nat
  pid : Nat
  deriving DecidableEq, Repr

namespace Process

/-- What can be done to a process in the background. -/
inductive Request
  | hasExited (p : Process)
  | terminate (p : Process)
  | kill (p : Process)
  /-- Waits for the exit, at most for the given time. -/
  | waitExit (p : Process) (timeout : Duration)
  | log (entry : Log.Entry)

/-- `hasExited` and `waitExit` tell whether the process is gone. -/
abbrev Answer : Request → Type
  | .hasExited _ => Except IoError Bool
  | .terminate _ => Except IoError Unit
  | .kill _ => Except IoError Unit
  | .waitExit _ _ => Except IoError Bool
  | .log _ => Unit

def interface : Interface := ⟨Request, Answer⟩

/-- Programs on processes, which end at the first failure. -/
abbrev Action (α : Type) := ExceptT IoError (Program interface) α

/-- Whether the process is gone, found out without waiting. -/
def hasExited (p : Process) : Action Bool :=
  ExceptT.mk (Program.request (I := interface) (.hasExited p))

/-- Asks the process to exit. -/
def terminate (p : Process) : Action Unit :=
  ExceptT.mk (Program.request (I := interface) (.terminate p))

/-- Makes the process exit. -/
def kill (p : Process) : Action Unit := ExceptT.mk (Program.request (I := interface) (.kill p))

/-- Waits for the exit, at most for `timeout`; whether the process is gone then. -/
def waitExit (p : Process) (timeout : Duration) : Action Bool :=
  ExceptT.mk (Program.request (I := interface) (.waitExit p timeout))

/-- Asks the process to exit, and kills it if it is still alive after `grace`. -/
def stop (p : Process) (grace : Duration) : Action Unit := do
  p.terminate
  unless ← p.waitExit grace do
    let text := s!"process {Text.decimal p.pid} still alive after {grace.text}, killing"
    ExceptT.lift (Program.request (I := interface) (.log ⟨.debug, .process, text⟩))
    p.kill

end Process

end Testbed
