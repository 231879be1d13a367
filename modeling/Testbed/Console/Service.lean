import Testbed.Console.Interleaving
/-!
# The threads of the passes

The calls on a monitor come from callers, and from the threads that the monitor starts for its
passes. Such a thread wakes up at intervals: it makes a pass, unless word was sent to it to make no
further one, and then it ends. A shutdown sends the word before it waits for the end. The word does
not get lost: a thread that is in the middle of a pass finds it when it is next about to wake.

Main statement: `step_of_turn`, whatever the threads are seen to do in a turn is a step of a call.
-/
namespace Testbed.Console.Monitor

variable {ε : Type}

/-- A monitor, the calls that its threads are in, and what has become of the threads that it
started. -/
structure Service (ε : Type) extends Progress ε where
  /-- The threads that were started for the passes. -/
  workers : List Nat := []
  /-- Those that word was sent to, to make no further pass. -/
  told : List Nat := []
  /-- Those that have ended. -/
  ended : List Nat := []

/-- The threads that are started in a move. -/
def Move.started (m : Move ε) : List Nat :=
  m.deeds.filterMap fun
    | ⟨.startThread, .ok worker⟩ => some worker
    | _ => none

/-- Whether the end of a thread can be waited for with this outcome: word was sent to the thread,
and it has ended if that is the outcome. -/
def Service.Joins (v : Service ε) (worker : Nat) (ended : Bool) : Prop :=
  worker ∈ v.told ∧ (ended → worker ∈ v.ended)

instance Service.decidableJoins (v : Service ε) (worker : Nat) (ended : Bool) :
    Decidable (v.Joins worker ended) :=
  inferInstanceAs (Decidable (worker ∈ v.told ∧ (ended → worker ∈ v.ended)))

/-- Whether an exchange can be had at the moment. -/
def Service.Allows (v : Service ε) : Program.Exchange (interface ε) → Prop
  | ⟨.join worker _, ended⟩ => v.Joins worker ended
  | _ => True

/-- What happens next, and the move that is seen of it if it is one. Callers begin such calls only
as they may. -/
inductive Turn (s : Settings.Console) (may : Entry ε → Prop) :
    Service ε → Option (Move ε) → Service ε → Prop
  /-- A caller begins a call. -/
  | call {v : Service ε} {thread : Nat} {entry : Entry ε} :
      may entry → thread ∉ v.workers → v.calls thread = .done () →
      Turn s may v (some ⟨thread, none, []⟩)
        { v with toProgress := v.setCall thread (entry.call s) }
  /-- A thread of the passes wakes up and makes one. -/
  | wake {v : Service ε} {worker : Nat} {call : Call ε Unit} :
      worker ∈ v.workers → v.calls worker = .done () →
      onWake (decide (worker ∈ v.told)) = some call →
      Turn s may v (some ⟨worker, none, []⟩) { v with toProgress := v.setCall worker call }
  /-- A thread of the passes wakes up and ends. -/
  | retire {v : Service ε} {worker : Nat} :
      worker ∈ v.workers → v.calls worker = .done () →
      onWake (ε := ε) (decide (worker ∈ v.told)) = none →
      Turn s may v none { v with ended := worker :: v.ended }
  /-- Word is sent by a call that is about to wait for the end of a thread. -/
  | tell {v : Service ε} {thread worker : Nat} {timeout : Duration}
      {next : Bool → Call ε Unit} :
      v.calls thread = .ask (.join worker timeout) next →
      Turn s may v none { v with told := worker :: v.told }
  /-- A call goes on. A thread that it starts is a new one. -/
  | go {v : Service ε} {m : Move ε} {p : Progress ε} {e : Program.Exchange (interface ε)} :
      Step s v.toProgress m p → m.exchange = some e → v.Allows e →
      (∀ worker ∈ m.started, worker ∉ v.workers ∧ v.calls worker = .done ()) →
      Turn s may v (some m) { v with toProgress := p, workers := m.started ++ v.workers }

/-- A thread of the passes wakes up for a pass, if word was not sent to it. -/
theorem onWake_eq_some {told : Bool} {call : Call ε Unit} (h : onWake told = some call) :
    told = false ∧ call = pass := by
  cases told with
  | false => exact ⟨rfl, (Option.some.inj h).symm⟩
  | true => cases h

/-- A turn in which no move is seen leaves the calls as they are. -/
theorem still_of_turn {s : Settings.Console} {may : Entry ε → Prop} {v w : Service ε}
    (h : Turn s may v none w) : w.toProgress = v.toProgress := by
  cases h <;> rfl

/-- **A turn is a step of a call** if a move is seen of it. -/
theorem step_of_turn {s : Settings.Console} {may : Entry ε → Prop} {v w : Service ε} {m : Move ε}
    (h : Turn s may v (some m) w) : Step s v.toProgress m w.toProgress := by
  cases h with
  | @call thread entry _ _ idle => exact .start entry idle
  | wake _ idle wakes =>
    obtain ⟨-, rfl⟩ := onWake_eq_some wakes
    exact .start .pass idle
  | go step => exact step

end Testbed.Console.Monitor
