import Testbed.Duration.Tenths
import Testbed.Log
import Testbed.Program
import Testbed.Settings
/-!
# Waiting for conditions

Hosts under test announce nothing, so every change of state is awaited by trying a condition again
and again. A wait has a budget. Each try but the last is followed by a pause, and a pause takes its
length off the budget; the wait ends in a timeout when nothing is left. The condition is tried once
even on an empty budget, and a pause takes at least a millisecond, so that every wait ends.

| here | in the program |
| --- | --- |
| `awaitFallible`, with its loop `tryWithin` | `try_until` of `Wait` |
| `await` | `until` of `Wait` |
| `forTrue`, `forFalse` | the waits of `wait_for`, `wait_for_not` |
| `ofSettings`, `Timeout` | `from_config`, `TimeoutError` |
-/
namespace Testbed

/-- What is awaited, and for how long. -/
structure Wait where
  /-- Logged once when the wait begins. -/
  message : Option String := none
  timeout : Duration
  retryDelay : Duration
  /-- Whether the condition is awaited to fail. -/
  inverted : Bool := false
  deriving DecidableEq, Repr

namespace Wait

/-- What waiting itself needs. -/
inductive Request
  | sleep (d : Duration)
  | log (entry : Log.Entry)

abbrev Answer : Request → Type
  | .sleep _ => Unit
  | .log _ => Unit

def interface : Interface := ⟨Request, Answer⟩

def sleep (d : Duration) : Program interface Unit := Program.request (I := interface) (.sleep d)

def log (entry : Log.Entry) : Program interface Unit :=
  Program.request (I := interface) (.log entry)

/-- The wait with the timeout and the delay of the settings. -/
def ofSettings (s : Settings.Wait) : Wait := { timeout := s.timeout, retryDelay := s.retryDelay }

/-- The wait for the opposite. -/
def invert (w : Wait) : Wait := { w with inverted := !w.inverted }

/-- The wait until a condition holds. -/
def forTrue (message : Option String) (timeout retryDelay : Duration) : Wait :=
  { message, timeout, retryDelay }

/-- The wait until a condition fails. -/
def forFalse (message : Option String) (timeout retryDelay : Duration) : Wait :=
  (forTrue message timeout retryDelay).invert

/-- The value that ends the wait. -/
def expected (w : Wait) : Bool := !w.inverted

/-- The condition did not take the expected value in time. -/
structure Timeout where
  what : Option String
  expected : Bool
  timeout : Duration
  deriving DecidableEq, Repr

def Timeout.message (t : Timeout) : String :=
  let what := t.what.getD "condition"
  let expected := if t.expected then "true" else "false"
  s!"timeout reached while waiting for {what} to yield {expected} ({t.timeout.tenthsText}s)"

def timedOut (w : Wait) : Timeout := ⟨w.message, w.expected, w.timeout⟩

/-- The pause between two tries. Without any the budget would never be used up. -/
def pause (w : Wait) : Duration := w.retryDelay.longer (.ofMillis 1)

theorem pause_pos (w : Wait) : 0 < w.pause.nanos := by
  simp only [pause, Duration.longer, Duration.ofMillis, Duration.millisecond]; omega

variable {I : Interface} [Interface.Embeds interface I] {ε : Type}

/-- Tries the condition until it takes the expected value, fails or uses up `budget`. -/
def tryWithin (w : Wait) (onTimeout : Timeout → ε) (condition : ExceptT ε (Program I) Bool)
    (budget : Duration) : ExceptT ε (Program I) Unit := do
  let value ← condition
  if value = w.expected then
    pure ()
  else if _h : (budget.less w.pause).nanos = 0 then
    throw (onTimeout w.timedOut)
  else
    ExceptT.lift (sleep w.pause).embed
    tryWithin w onTimeout condition (budget.less w.pause)
termination_by budget.nanos
decreasing_by
  have := w.pause_pos
  simp only [Duration.less] at *
  omega

/-- Waits until the condition takes the expected value. A failure of the condition ends the wait. -/
def awaitFallible (w : Wait) (onTimeout : Timeout → ε) (condition : ExceptT ε (Program I) Bool) :
    ExceptT ε (Program I) Unit := do
  if let some text := w.message then
    ExceptT.lift (log ⟨.info, .wait, text⟩).embed
  w.tryWithin onTimeout condition w.timeout

/-- Waits until the condition, which cannot fail, takes the expected value. -/
def await (w : Wait) (condition : Program I Bool) : ExceptT Timeout (Program I) Unit :=
  w.awaitFallible id (ExceptT.lift condition)

/-! ## A wait by itself -/

namespace Trial

/-- What a wait by itself needs: its condition is a question too. -/
inductive Request
  | attempt
  | sleep (d : Duration)
  | log (entry : Log.Entry)

abbrev Answer (ε : Type) : Request → Type
  | .attempt => Except ε Bool
  | .sleep _ => Unit
  | .log _ => Unit

def interface (ε : Type) : Interface := ⟨Request, Answer ε⟩

instance : Interface.Embeds Wait.interface (interface ε) where
  serve
    | .sleep d => Program.request (I := interface ε) (.sleep d)
    | .log entry => Program.request (I := interface ε) (.log entry)

/-- Asks for the condition once. -/
def attempt : ExceptT ε (Program (interface ε)) Bool :=
  ExceptT.mk (Program.request (I := interface ε) .attempt)

end Trial

/-- The wait on a condition that is asked for. -/
def trial (w : Wait) (onTimeout : Timeout → ε) : ExceptT ε (Program (Trial.interface ε)) Unit :=
  w.awaitFallible onTimeout Trial.attempt

end Wait

end Testbed
