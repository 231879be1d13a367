import Testbed.Proofs.Console.Route
/-!
# Runs by schedule

An interleaving of calls as it can be computed: a list of orders says which thread goes next, and
how the world answers it. Main statements: `route_obey`, what the threads do by their orders is a
run, and `atRest_of_steps`, by which it is decided whether all of them have come to rest.
-/
namespace Testbed.Console.Monitor

open Program

variable {ε : Type}

structure Answers where
  state : Except Fault PowerState := .ok .running
  domid : Except Fault (Option Nat) := .ok none
  host : String := "host"
  launch : Except Failure Process := .ok ⟨0, 0⟩
  exited : Except IoError Bool := .ok false
  terminated : Except IoError Unit := .ok ()
  /-- Whether a process is gone after the grace period. -/
  gone : Except IoError Bool := .ok true
  killed : Except IoError Unit := .ok ()
  /-- The thread that is started for the passes. -/
  worker : Except IoError Nat := .ok 0
  /-- Whether a thread ended in time. -/
  ended : Bool := true

namespace Answers

def device (w : Answers) : (r : Device.Request ε) → Device.Answer ε r
  | .hostOf _ => w.host
  | .launch _ _ _ => w.launch
  | .process (.hasExited _) => w.exited
  | .process (.terminate _) => w.terminated
  | .process (.kill _) => w.killed
  | .process (.waitExit _ _) => w.gone
  | .process (.log _) => ()
  | .makeDirs _ => .ok ()
  | .openLog _ => .ok ()
  | .fileSize _ => .ok 1
  | .removeFile _ => .ok ()
  | .now => ⟨2024, 1, 31, 23, 59, 59, 42⟩
  | .startThread => w.worker
  | .log _ => ()

/-- The answer to a step of a call, what is done in it, and the state after it. -/
def serve (w : Answers) (s : Settings.Console) (st : State ε) :
    (r : Request ε) → Answer ε r × Deeds ε × State ε
  | .locked c =>
    let run := (c.perform s st).follow w.device
    (run.2.1, run.1, run.2.2)
  | .powerState _ => (w.state, [], st)
  | .domid _ => (w.domid, [], st)
  | .stop uuid r => ((), ((stopRecording s uuid r).follow w.device).1, st)
  | .join _ _ => (w.ended, [], st)
  | .log _ => ((), [], st)

theorem serves (w : Answers) (s : Settings.Console) (st : State ε) (r : Request ε) :
    Serves s st r (w.serve s st r).1 (w.serve s st r).2.1 (w.serve s st r).2.2 := by
  cases r with
  | locked c =>
    have run := runs_follow (I := Device.interface ε) w.device (c.perform s st)
    exact .locked run
  | powerState subject => exact .powerState subject w.state
  | domid subject => exact .domid subject w.domid
  | stop uuid r =>
    have run := runs_follow (I := Device.interface ε) w.device (stopRecording s uuid r)
    exact .stop run
  | join worker timeout => exact .join worker timeout w.ended
  | log entry => exact .log entry

end Answers

inductive Order (ε : Type)
  | call (thread : Nat) (entry : Entry ε)
  | go (thread : Nat) (answers : Answers)

/-- The leg that an order makes, and the progress after it. A thread cannot begin a call in the
middle of another, and an idle one cannot go on; such orders change nothing. -/
def obeyOne (s : Settings.Console) (p : Progress ε) : Order ε → List (Leg ε) × Progress ε
  | .call thread entry =>
    match p.calls thread with
    | .done _ => ([⟨⟨thread, none, []⟩, p.state, p.state⟩], p.setCall thread (entry.call s))
    | .ask _ _ => ([], p)
  | .go thread answers =>
    match p.calls thread with
    | .done _ => ([], p)
    | .ask r next =>
      let (a, deeds, after) := answers.serve s p.state r
      ([⟨⟨thread, some ⟨r, a⟩, deeds⟩, p.state, after⟩],
        { p with state := after }.setCall thread (next a))

def obey (s : Settings.Console) (p : Progress ε) : List (Order ε) → List (Leg ε) × Progress ε
  | [] => ([], p)
  | order :: rest =>
    let first := obeyOne s p order
    let later := obey s first.2 rest
    (first.1 ++ later.1, later.2)

theorem route_obeyOne (s : Settings.Console) (p : Progress ε) (order : Order ε) :
    Route s p (obeyOne s p order).1 (obeyOne s p order).2 := by
  cases order with
  | call thread entry =>
    rcases hc : p.calls thread with _ | ⟨r, next⟩ <;> simp only [obeyOne, hc]
    · have route := route_of_step (Step.start (s := s) entry hc)
      exact route
    · exact .rest p
  | go thread answers =>
    rcases hc : p.calls thread with _ | ⟨r, next⟩ <;> simp only [obeyOne, hc]
    · exact .rest p
    · have route := route_of_step (Step.go hc (answers.serves s p.state r))
      exact route

/-- **What is done by orders is a run.** -/
theorem route_obey (s : Settings.Console) (p : Progress ε) (orders : List (Order ε)) :
    Route s p (obey s p orders).1 (obey s p orders).2 := by
  induction orders generalizing p with
  | nil => exact .rest p
  | cons order rest ih => exact route_append (route_obeyOne s p order) (ih _)

theorem steps_obey (s : Settings.Console) (p : Progress ε) (orders : List (Order ε)) :
    Steps s p (moves (obey s p orders).1) (obey s p orders).2 :=
  steps_of_route (route_obey s p orders)

/-! ## Rest -/

def Ended : Call ε Unit → Bool
  | .done _ => true
  | .ask _ _ => false

theorem eq_done_of_ended {call : Call ε Unit} (h : Ended call) : call = .done () := by
  cases call with
  | done => rfl
  | ask => cases h

theorem obey_append (s : Settings.Console) (p : Progress ε) (first second : List (Order ε)) :
    (obey s p (first ++ second)).2 = (obey s (obey s p first).2 second).2 := by
  induction first generalizing p with
  | nil => rfl
  | cons order first ih => exact ih _

/-- A call begins if its thread is idle. -/
theorem calls_obey_call {s : Settings.Console} {p : Progress ε} {orders : List (Order ε)}
    {thread : Nat} (idle : Ended ((obey s p orders).2.calls thread)) (entry : Entry ε) :
    (obey s p (orders ++ [.call thread entry])).2.calls thread = entry.call s := by
  rw [obey_append]
  simp [obey, obeyOne, eq_done_of_ended idle]

/-- Whether a call has ended, or waits for a subject to answer or for a thread to end. -/
def Rests : Call ε Unit → Bool
  | .done _ | .ask (.powerState _) _ | .ask (.domid _) _ | .ask (.join _ _) _ => true
  | .ask _ _ => false

/-- Every call has come to rest: none is between two things that it does without waiting. -/
def Progress.AtRest (p : Progress ε) : Prop := ∀ thread, Rests (p.calls thread)

theorem calls_of_step {s : Settings.Console} {p q : Progress ε} {m : Move ε} {n : Nat}
    (h : Step s p m q) (other : m.thread ≠ n) : q.calls n = p.calls n := by
  cases h with
  | start => exact if_neg (Ne.symm other)
  | go => exact if_neg (Ne.symm other)

/-- A thread that makes no move stays where it is. -/
theorem calls_of_steps {s : Settings.Console} {p q : Progress ε} {moves : List (Move ε)} {n : Nat}
    (run : Steps s p moves q) (others : ∀ m ∈ moves, m.thread ≠ n) : q.calls n = p.calls n := by
  induction run with
  | rest => rfl
  | move step _ ih =>
    rw [ih fun m hm => others m (List.mem_cons_of_mem _ hm)]
    exact calls_of_step step (others _ (List.mem_cons_self ..))

/-- What holds of all calls, idle ones included, is seen at the threads that took part. -/
theorem forall_calls_of_steps {s : Settings.Console} {p : Progress ε} {moves : List (Move ε)}
    {P : Call ε Unit → Prop} (run : Steps s {} moves p) (bound : Nat)
    (threads : ∀ m ∈ moves, m.thread < bound) (idle : P (.done ()))
    (holds : ∀ n < bound, P (p.calls n)) : ∀ n, P (p.calls n) := by
  intro n
  by_cases h : n < bound
  · exact holds n h
  · have still : p.calls n = .done () :=
      calls_of_steps run fun m hm => by have := threads m hm; omega
    rwa [still]

theorem atRest_of_steps {s : Settings.Console} {p : Progress ε} {moves : List (Move ε)}
    (run : Steps s {} moves p) (bound : Nat) (threads : ∀ m ∈ moves, m.thread < bound)
    (rest : ∀ n < bound, Rests (p.calls n)) : p.AtRest :=
  forall_calls_of_steps (P := fun call => Rests call) run bound threads rfl rest

/-! ## A uuid that is added again -/

def added : List (Order Unit) :=
  [.call 0 (.add "vm" () none), .go 0 {}, .go 0 {}, .go 0 { domid := .ok (some 7) },
   .go 0 { launch := .ok ⟨1, 100⟩ }, .go 0 {}]

def begunPass : Progress Unit := (obey {} {} (added ++ [.call 0 .pass])).2

theorem calls_begunPass : begunPass.calls 0 = pass := calls_obey_call (by decide +kernel) .pass

/-- While a pass waits for a subject, its uuid is removed and added again by another thread; when
the pass goes on it finds that the domain has changed. -/
def meanwhile : List (Order Unit) :=
  [.go 0 {},
   .call 1 (.remove "vm"), .go 1 {}, .go 1 { gone := .ok false },
   .call 1 (.add "vm" () none), .go 1 {}, .go 1 {}, .go 1 { domid := .ok (some 7) },
   .go 1 { launch := .ok ⟨2, 101⟩ }, .go 1 {},
   .go 0 { domid := .ok (some 8) }, .go 0 { launch := .ok ⟨3, 102⟩ }]

end Testbed.Console.Monitor
