import Testbed.Rehearsal.World
/-!
# Monitors on stage

A scripted world with console monitors in it. A call of a monitor runs step by step, and whoever
directs the rehearsal may put in other calls while a subject is asked for its state. Calls go to the
monitor in charge; another one may take its place at any time, or none. A monitor that is not in
charge any more gives up its watches once the last call that is going on with it has come to its
end.

The threads of the reconciliation passes are rehearsed too: they wake up when they are told to, and
they stand still at a subject whose answers are held back.

By `steps_of_directed` all that happens on stage is one of the interleavings of `Progress.Steps`.
-/
namespace Testbed.Rehearsal

open Console (Call)

/-- A monitor, and how it attaches consoles. -/
structure Post where
  settings : Settings.Console := {}
  launcher : Launcher := .scripted
  monitor : Console.Monitor.State Subject := {}
  deriving Inhabited

/-- A thread of reconciliation passes. -/
structure Thread where
  id : Nat
  /-- The number of the monitor that it makes passes for. -/
  post : Nat := 0
  /-- Whether it was told to make no further pass. -/
  told : Bool := false
  /-- What is left of a pass that stands still. -/
  pending : Option (Call Subject Unit) := none

structure Stage where
  world : World := {}
  /-- The monitors by their numbers. -/
  posts : Array Post := #[]
  /-- The monitor in charge. -/
  charge : Option Nat := none
  /-- The monitors of the calls that are going on. -/
  engaged : List Nat := []
  threads : List Thread := []

/-- What happens on stage. -/
abbrev Scene := StateM Stage

namespace Stage

/-- The monitor of a number. -/
def post (s : Stage) (n : Nat) : Post := (s.posts[n]?).getD default

/-- The monitor in charge, if there is one. -/
def inCharge? (s : Stage) : Option Post := s.charge.map s.post

/-- What happens in the world. -/
def play {α : Type} (p : Play α) : Scene α := fun s =>
  let (a, world) := p.run s.world
  (a, { s with world })

/-- Does something with the devices of a monitor. -/
def withDevices {α : Type} (n : Nat) (care : Console.Care Subject α) : Scene α := do
  let launcher := ((← get).post n).launcher
  play (care.interpret (World.answerDevice launcher))

/-- A section of a call, done at once. Threads that it starts are threads of its monitor. -/
def perform (n : Nat) (c : Console.Monitor.Section Subject) : Scene c.Answer := do
  let s ← get
  let p := s.post n
  let (a, monitor) ← withDevices n (c.perform p.settings p.monitor)
  modify fun after =>
    let started := (List.range after.world.threads).drop s.world.threads
    { after with
      posts := after.posts.modify n fun p => { p with monitor }
      threads := started.map (fun id => { id, post := n }) ++ after.threads }
  return a

/-- Stops a recording that a monitor has given up. -/
def stop (n : Nat) (uuid : String) (r : Console.Recording) : Scene Unit := do
  let settings := ((← get).post n).settings
  withDevices n (Console.stopRecording settings uuid r)

def isWithheld (s : Stage) : Subject → Bool
  | .actor n => (s.world.actors[n]?.getD default).withheld
  | _ => false

/-- Makes what it can of a pass. What is left begins with a question that is not answered. -/
def advance (n : Nat) : Call Subject Unit → Scene (Option (Call Subject Unit))
  | .done _ => return none
  | .ask (.powerState subject) next => do
    if isWithheld (← get) subject then return some (.ask (.powerState subject) next)
    play (World.record (.powerState (World.uuidOf subject (← get).world)))
    advance n (next (← play (World.askState subject)))
  | .ask (.domid subject) next => do
    if isWithheld (← get) subject then return some (.ask (.domid subject) next)
    advance n (next (← play (World.askDomid subject)))
  | .ask (.locked c) next => do advance n (next (← perform n c))
  | .ask (.stop uuid r) next => do advance n (next (← stop n uuid r))
  | .ask (.join _ _) next => advance n (next true)
  | .ask (.log entry) next => do advance n (next (← play (World.recordLog entry)))

/-- The thread of a number. -/
def thread (s : Stage) (id : Nat) : Thread := (s.threads.find? (·.id = id)).getD { id }

def setThread (t : Thread) : Scene Unit :=
  modify fun s => { s with threads := t :: s.threads.filter (·.id ≠ t.id) }

/-- Lets a thread go on with its pass, or wake up for the next one. -/
def wake (id : Nat) : Scene Unit := do
  let t := (← get).thread id
  match t.pending <|> Console.Monitor.onWake t.told with
  | some call => setThread { t with pending := ← advance t.post call }
  | none => return ()

/-- Lets every thread go on. -/
def wakeAll : Scene Unit := do
  for id in List.range (← get).world.threads do wake id

/-- Tells a thread to end; whether it does. One that stands still in a pass does not. -/
def join (id : Nat) : Scene Bool := do
  let t := (← get).thread id
  let pending ← match t.pending with
    | some call => advance t.post call
    | none => pure none
  setThread { t with told := true, pending }
  return pending.isNone

/-- Whether some thread waits for the answer of a subject. -/
def isAsked (s : Stage) (subject : Subject) : Bool :=
  s.threads.any fun t =>
    match t.pending with
    | some (.ask (.powerState asked) _) => asked = subject
    | some (.ask (.domid asked) _) => asked = subject
    | _ => false

/-- Wakes the threads until a condition holds, `rounds` times at most; whether it holds. -/
def await (condition : Stage → Bool) : Nat → Scene Bool
  | 0 => return condition (← get)
  | rounds + 1 => do
    if condition (← get) then return true
    wakeAll
    await condition rounds

variable {m : Type → Type} [Monad m] [MonadLiftT Scene m]

/-- Answers a step of a call. While a subject is asked for its state, `meanwhile` is done. -/
def answerCall (n : Nat) (meanwhile : String → m Unit) :
    (r : Console.Monitor.Request Subject) → m (Console.Monitor.Answer Subject r)
  | .locked c => liftM (perform n c)
  | .powerState subject => do
    let s : Stage ← liftM (get : Scene Stage)
    let uuid := World.uuidOf subject s.world
    liftM (play (World.record (.powerState uuid)))
    meanwhile uuid
    liftM (play (World.askState subject))
  | .domid subject => liftM (play (World.askDomid subject))
  | .stop uuid r => liftM (stop n uuid r)
  | .join id _ => liftM (join id)
  | .log entry => liftM (play (World.recordLog entry))

/-- Ends the passes of a monitor and gives up its watches. -/
def shutdown (n : Nat) (meanwhile : String → m Unit) : m Unit := do
  let s : Stage ← liftM (get : Scene Stage)
  (Console.Monitor.shutdown (s.post n).settings).interpret (answerCall n meanwhile)

/-- Shuts a monitor down unless it is in charge or a call is going on with it. -/
def release (n : Nat) (meanwhile : String → m Unit) : m Unit := do
  let s : Stage ← liftM (get : Scene Stage)
  unless s.charge = some n || s.engaged.contains n do shutdown n meanwhile

/-- Runs a call of the monitor in charge, which is engaged until the call ends. -/
def run {α : Type} (meanwhile : String → m Unit) (call : Settings.Console → Call Subject α) :
    m α := do
  let s : Stage ← liftM (get : Scene Stage)
  let n := s.charge.getD 0
  liftM (modify (fun s => { s with engaged := n :: s.engaged }) : Scene Unit)
  let a ← (call (s.post n).settings).interpret (answerCall n meanwhile)
  liftM (modify (fun after => { after with engaged := s.engaged }) : Scene Unit)
  release n meanwhile
  return a

/-- Puts another monitor in charge, or none. -/
def appoint (meanwhile : String → m Unit) (p : Option Post) : m Unit := do
  let s : Stage ← liftM (get : Scene Stage)
  let next : Stage := match p with
    | some p => { s with posts := s.posts.push p, charge := some s.posts.size }
    | none => { s with charge := none }
  liftM (set next : Scene Unit)
  match s.charge with
  | some n => release n meanwhile
  | none => return ()

end Stage

end Testbed.Rehearsal
