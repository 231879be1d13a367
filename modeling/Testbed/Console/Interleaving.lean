import Testbed.Console.Monitor
/-!
# Calls of several threads

What a monitor and the calls on it can go through when several threads make calls at the same time.
A thread is idle or in the middle of a call. A move lets one thread begin a call, or take the next
step of the call it is in: a section happens at once, questions may get any answer, and whatever is
done to recordings may go any way that the world lets it.

Main statement: `steps_append`, what is gone through in two stretches can be gone through in one.
-/
namespace Testbed.Console.Monitor

variable {ε : Type}

/-- The calls that a thread may begin. A monitor that is let go of is shut down first. -/
inductive Entry (ε : Type)
  | add (uuid : String) (subject : ε) (host : Option String)
  | remove (uuid : String)
  | start
  | pass
  | shutdown

/-- A call, whatever its result. -/
def Entry.call (s : Settings.Console) : Entry ε → Call ε Unit
  | .add uuid subject host => do let _ ← Monitor.add uuid subject host
  | .remove uuid => Monitor.remove uuid
  | .start => Monitor.start
  | .pass => Monitor.pass
  | .shutdown => Monitor.shutdown s

/-- What is done to consoles in a step. -/
abbrev Deeds (ε : Type) := List (Program.Exchange (Device.interface ε))

/-- The answers that a request may get, the deeds that it takes, and the state afterwards. -/
inductive Serves (s : Settings.Console) (st : State ε) :
    (r : Request ε) → Answer ε r → Deeds ε → State ε → Prop
  | locked {c : Section ε} {a : c.Answer} {deeds : Deeds ε} {after : State ε} :
      (c.perform s st).Runs deeds (a, after) → Serves s st (.locked c) a deeds after
  | powerState (subject : ε) (a : Except Fault PowerState) :
      Serves s st (.powerState subject) a [] st
  | domid (subject : ε) (a : Except Fault (Option Nat)) : Serves s st (.domid subject) a [] st
  | stop {uuid : String} {r : Recording} {deeds : Deeds ε} :
      (stopRecording (ε := ε) s uuid r).Runs deeds () → Serves s st (.stop uuid r) () deeds st
  | join (worker : Nat) (timeout : Duration) (ended : Bool) :
      Serves s st (.join worker timeout) ended [] st
  | log (entry : Log.Entry) : Serves s st (.log entry) () [] st

/-- A monitor and the calls that its threads are in. -/
structure Progress (ε : Type) where
  state : State ε := {}
  /-- The rest of the call of each thread; an idle thread has nothing left to do. -/
  calls : Nat → Call ε Unit := fun _ => .done ()

namespace Progress

/-- The progress with another rest of a call. -/
def setCall (p : Progress ε) (thread : Nat) (call : Call ε Unit) : Progress ε :=
  { p with calls := fun n => if n = thread then call else p.calls n }

end Progress

/-- What is seen of a move: who makes it, the request and its answer unless a call begins, and what
is done to consoles. -/
structure Move (ε : Type) where
  thread : Nat
  exchange : Option (Program.Exchange (interface ε))
  deeds : Deeds ε

/-- One move of one thread. -/
inductive Step (s : Settings.Console) : Progress ε → Move ε → Progress ε → Prop
  | start {p : Progress ε} {thread : Nat} (entry : Entry ε) :
      p.calls thread = .done () →
      Step s p ⟨thread, none, []⟩ (p.setCall thread (entry.call s))
  | go {p : Progress ε} {thread : Nat} {r : Request ε} {next : Answer ε r → Call ε Unit}
      {a : Answer ε r} {deeds : Deeds ε} {after : State ε} :
      p.calls thread = .ask r next → Serves s p.state r a deeds after →
      Step s p ⟨thread, some ⟨r, a⟩, deeds⟩ ({ p with state := after }.setCall thread (next a))

/-- The moves of any number of threads, in the order in which they are made. -/
inductive Steps (s : Settings.Console) : Progress ε → List (Move ε) → Progress ε → Prop
  | rest (p : Progress ε) : Steps s p [] p
  | move {p q r : Progress ε} {m : Move ε} {more : List (Move ε)} :
      Step s p m q → Steps s q more r → Steps s p (m :: more) r

/-- **Two stretches in a row.** -/
theorem steps_append {s : Settings.Console} {p q r : Progress ε} {first second : List (Move ε)}
    (h₁ : Steps s p first q) (h₂ : Steps s q second r) : Steps s p (first ++ second) r := by
  induction h₁ with
  | rest => exact h₂
  | move step _ ih => exact .move step (ih h₂)

@[simp] theorem calls_setCall (p : Progress ε) (thread n : Nat) (call : Call ε Unit) :
    (p.setCall thread call).calls n = if n = thread then call else p.calls n := rfl

@[simp] theorem state_setCall (p : Progress ε) (thread : Nat) (call : Call ε Unit) :
    (p.setCall thread call).state = p.state := rfl

end Testbed.Console.Monitor
