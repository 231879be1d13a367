import Testbed.Console.Watch
import Testbed.Registry
/-!
# The console monitor

The monitor keeps a watch on each subject it was given and reconciles all of them at intervals. Its
calls come from several threads. What they share is behind a lock; a `Section` is what a call does
while it holds the lock, and whoever looks from outside sees it happen at once. Subjects are asked
for their state without the lock, since they may take long to answer, so other calls may come in
between: what was learnt about a subject counts only if its watch still has the number that it had
when it was asked.

Each request of `Monitor.interface` is one step of a call. `Section.perform` says what the sections
do; the rest is up to the world.

| here | in the program |
| --- | --- |
| `State` | what `ConsoleMonitor` keeps behind its locks |
| `query` | `query` |
| `add`, `remove` | `add`, `remove` |
| `pass`, of which each visit is reconciled by `Section.settle` | `tick` |
| `start`, `onWake` | `start_monitoring`, and what its thread does |
| `shutdown` | `cleanup`, which dropping the monitor calls |
| `State.logPath`, `State.isRunning`, `State.watched` | `log_path`, `is_monitoring`, `logged_entities` |
-/
namespace Testbed.Console

namespace Monitor

/-- What the calls share. -/
structure State (ε : Type) where
  watches : Registry (Watch ε) := .empty
  /-- The number of the next watch. A word of 64 bits holds the count, so no number is used twice up
  to `2 ^ 64` additions. -/
  nextId : Nat := 0
  /-- The thread that makes the reconciliation passes. -/
  worker : Option Nat := none

/-- A watch as it is visited by a pass. -/
structure Visit (ε : Type) where
  uuid : String
  id : Nat
  subject : ε
  deriving DecidableEq, Repr

/-- What a call does while it holds the lock. -/
inductive Section (ε : Type)
  | isWatched (uuid : String)
  /-- Puts up a watch on a subject that runs in a domain, unless its uuid has one. -/
  | enter (uuid : String) (subject : ε) (host : Option String) (domid : Nat)
  /-- Gives up the watch on a uuid. -/
  | leave (uuid : String)
  /-- Lists the watches for a pass. -/
  | list
  /-- Reconciles a visited watch with what was learnt, if it is still the same watch. -/
  | settle (visit : Visit ε) (status : Except Fault Status)
  /-- Starts the thread of the passes unless there is one. -/
  | startWorker
  /-- Gives up the thread of the passes. -/
  | takeWorker
  /-- Gives up all watches. -/
  | clear

/-- `enter` tells whether it put up a watch; `leave` and `clear` hand over the recordings that are
to be stopped. -/
abbrev Section.Answer {ε : Type} : Section ε → Type
  | .isWatched _ => Bool
  | .enter _ _ _ _ => Bool
  | .leave _ => Option Recording
  | .list => List (Visit ε)
  | .settle _ _ => Unit
  | .startWorker => Unit
  | .takeWorker => Option Nat
  | .clear => List (String × Recording)

/-- A step of a call. -/
inductive Request (ε : Type)
  /-- Takes the lock, does something, and lets go of it. -/
  | locked (s : Section ε)
  | powerState (subject : ε)
  | domid (subject : ε)
  /-- Stops a recording that no watch has any more. -/
  | stop (uuid : String) (recording : Recording)
  /-- Tells the thread to make no further pass, and waits for its end. -/
  | join (worker : Nat) (timeout : Duration)
  | log (entry : Log.Entry)

/-- `join` tells whether the thread ended in time. -/
abbrev Answer (ε : Type) : Request ε → Type
  | .locked s => s.Answer
  | .powerState _ => Except Fault PowerState
  | .domid _ => Except Fault (Option Nat)
  | .stop _ _ => Unit
  | .join _ _ => Bool
  | .log _ => Unit

def interface (ε : Type) : Interface := ⟨Request ε, Answer ε⟩

end Monitor

/-- Calls of the monitor. -/
abbrev Call (ε α : Type) := Program (Monitor.interface ε) α

namespace Monitor

variable {ε : Type}

/-! ## What the sections do -/

/-- The watches as a pass visits them. -/
def State.visits (st : State ε) : List (Visit ε) :=
  st.watches.entries.map fun (uuid, w) => ⟨uuid, w.id, w.subject⟩

/-- The recordings that are going on. -/
def State.recordings (st : State ε) : List (String × Recording) :=
  st.watches.entries.filterMap fun (uuid, w) => w.recording.map (uuid, ·)

/-- Reconciles the watch of a visit. Trouble leaves the watch as it is. -/
def reconcileVisit (s : Settings.Console) (st : State ε) (visit : Visit ε) (w : Watch ε)
    (status : Except Fault Status) : Care ε (State ε) := do
  let outcome ← match status with
    | .ok status => (w.reconcile s visit.uuid status).run
    | .error fault => pure (.error (.query fault))
  match outcome with
  | .ok (some w) => return { st with watches := st.watches.insert visit.uuid w }
  | .ok none => return { st with watches := st.watches.erase visit.uuid }
  | .error e =>
    Device.log .warn s!"console monitor: failed to reconcile {visit.uuid}: {e.message}"
    return st

/-- The answer of a section and the state that it leaves. -/
def Section.perform (s : Settings.Console) (st : State ε) :
    (c : Section ε) → Care ε (c.Answer × State ε)
  | .isWatched uuid => return (st.watches.contains uuid, st)
  | .enter uuid subject host domid => do
    if st.watches.contains uuid then return (false, st)
    let w ← Watch.record s uuid ⟨st.nextId, subject, host, none⟩ domid
    return (true, { st with watches := st.watches.insert uuid w, nextId := st.nextId + 1 })
  | .leave uuid =>
    return ((st.watches.find? uuid).bind (·.recording),
      { st with watches := st.watches.erase uuid })
  | .list => return (st.visits, st)
  | .settle visit status =>
    match st.watches.find? visit.uuid with
    | some w =>
      if w.id = visit.id then do return ((), ← reconcileVisit s st visit w status)
      else return ((), st)
    | none => return ((), st)
  | .startWorker => do
    if st.worker.isSome then return ((), st)
    match ← Device.ask .startThread with
    | .ok worker => return ((), { st with worker := some worker })
    | .error e =>
      Device.log .warn s!"console monitor: failed to spawn thread: {e.text}"
      return ((), st)
  | .takeWorker => return (st.worker, { st with worker := none })
  | .clear => return (st.recordings, { st with watches := .empty })

/-! ## Calls -/

def locked (s : Section ε) : Call ε s.Answer := Program.request (I := interface ε) (.locked s)

def log (level : Log.Level) (text : String) : Call ε Unit :=
  Program.request (I := interface ε) (.log ⟨level, .console, text⟩)

/-- Asks a subject for its state, and for its domain unless the state is terminal. -/
def query (subject : ε) : Call ε (Except Fault Status) := do
  match ← Program.request (I := interface ε) (.powerState subject) with
  | .error fault => return .error fault
  | .ok state =>
    if state.isTerminal then return .ok ⟨state, none⟩
    match ← Program.request (I := interface ε) (.domid subject) with
    | .error fault => return .error fault
    | .ok domid => return .ok ⟨state, domid⟩

/-- Stops a recording that was handed over. -/
def stop (uuid : String) (r : Recording) : Call ε Unit :=
  Program.request (I := interface ε) (.stop uuid r)

def stopAll : List (String × Recording) → Call ε Unit
  | [] => return ()
  | (uuid, r) :: rest => do
    stop uuid r
    stopAll rest

/-- Starts the reconciliation passes unless they are going on. -/
def start : Call ε Unit := locked .startWorker

/-- Puts up a watch on a subject. The answer is whether the subject is under watch: one that does
not run, or has no domain yet, is not taken. -/
def add (uuid : String) (subject : ε) (host : Option String) : Call ε Bool := do
  if ← locked (.isWatched uuid) then return true
  match ← query subject with
  | .error fault =>
    log .warn s!"console monitor: failed to query {uuid}: {fault.message}"
    return false
  | .ok ⟨.running, some domid⟩ =>
    if ← locked (.enter uuid subject host domid) then start
    return true
  | .ok ⟨.running, none⟩ =>
    log .debug s!"console monitor: {uuid} has no domid yet"
    return false
  | .ok ⟨state, _⟩ =>
    log .debug s!"console monitor: {uuid} is {state.name}, not logging"
    return false

/-- Gives up the watch on a uuid. -/
def remove (uuid : String) : Call ε Unit := do
  if let some r ← locked (.leave uuid) then stop uuid r

/-- Asks each visited subject in turn and reconciles its watch. -/
def visitAll : List (Visit ε) → Call ε Unit
  | [] => return ()
  | visit :: rest => do
    let status ← query visit.subject
    locked (.settle visit status)
    visitAll rest

/-- One reconciliation pass over all watches. -/
def pass : Call ε Unit := do visitAll (← locked .list)

/-- Tells the thread to make no further pass; whether it ended in time. -/
def join (worker : Nat) (timeout : Duration) : Call ε Bool :=
  Program.request (I := interface ε) (.join worker timeout)

/-- Ends the passes, then gives up all watches. -/
def shutdown (s : Settings.Console) : Call ε Unit := do
  if let some worker ← locked .takeWorker then
    unless ← join worker s.joinTimeout do
      log .warn s!"console monitor: thread did not stop within {s.joinTimeout.text}"
  stopAll (← locked .clear)

/-- What the thread of the passes does when it wakes up: it ends if it was told to, and makes a
pass otherwise. -/
def onWake (told : Bool) : Option (Call ε Unit) := if told then none else some pass

/-! ## What can be seen of the state -/

/-- The log that the console of a subject goes to at the moment. -/
def State.logPath (st : State ε) (uuid : String) : Option String :=
  ((st.watches.find? uuid).bind (·.recording)).map (·.path)

def State.isRunning (st : State ε) : Bool := st.worker.isSome

/-- The uuids under watch. -/
def State.watched (st : State ε) : List String := st.watches.names

end Monitor

end Testbed.Console
