import Testbed.Rehearsal.Machine.Programs
/-!
# A machine

A machine that programs of our own run on: files, a clock, and processes that go on while the clock
does. Whoever uses the machine is its first process, which takes no step by itself. Starting a
program can be refused as the operating system refuses it.

A machine stands for the operating system and its tools where a rehearsal is to run real commands.
What is said of processes does not depend on it; that this machine treats its processes so is
`says_of_served`. Its shell reads a line of quoted words as these words (`reads_joinWords`).
-/
namespace Testbed.Rehearsal

structure Machine where
  kernel : Machine.Kernel
  deriving Inhabited

namespace Machine

/-- The process of whoever uses the machine. -/
def user : Running :=
  let pid := Kernel.firstPid
  { pid, parent := 1, group := pid, session := pid, task := .done 0, ready := 0 }

/-- A machine that was just switched on. -/
def ofFiles (files : Files) : Machine := ⟨{ files, processes := #[user] }⟩

def files (m : Machine) : Files := m.kernel.files

/-- The variables that programs are started with. -/
def environment : Environment :=
  [("PATH", standardSearch), ("HOME", "/root"), ("PWD", "/" ++ "/".intercalate Files.home)]

/-- Why a program cannot be started from a path. A file that is no program is a script for the
shell if there are to be such scripts. -/
def refusal? (m : Machine) (scripts : Bool) (path : String) : Option OsError :=
  match m.kernel.status isProgram 0 path true with
  | .error e => some e
  | .ok s =>
    let text := match m.kernel.find 0 path true with
      | .ok (.file f) => charsOf f.content
      | _ => []
    if s.kind ≠ .file || s.mode &&& 0o111 = 0 then some .denied
    else if s.identity = path || scripts then none
    else
      match interpreter? text with
      | none => some .badFormat
      | some (program, _) =>
        match m.kernel.status isProgram 0 program true with
        | .error e => some e
        | .ok _ => none

/-- Why a program cannot be started by its name. -/
def refusalOf? (m : Machine) (scripts : Bool) (name : String) : Option OsError :=
  if name.isEmpty then some .notFound
  else if !name.toList.contains '/' && Files.maxName < name.length then some .nameTooLong
  else go none (candidates standardSearch name)
where
  go (denied : Option OsError) : List String → Option OsError
    | [] => some (denied.getD .notFound)
    | path :: rest =>
      match m.refusal? scripts path with
      | some .denied => go (some .denied) rest
      | some .notFound => go denied rest
      | some .notADirectory =>
        if name.toList.contains '/' then some .notADirectory else go denied rest
      | found => found

/-- Starts a program with these streams; the result has its handle. One in a session of its own is
started by a process that runs scripts without a first line for the shell. -/
def start (m : Machine) (argv : List String) (streams : List Stream) (ownSession : Bool) :
    Except OsError (Machine × Nat) :=
  let argv := argv.map ofText
  match m.refusalOf? ownSession (argv.head?.getD "") with
  | some e => .error e
  | none =>
    let k := m.kernel
    let handle := k.processes.size
    let pid := Kernel.firstPid + handle
    let session := if ownSession then pid else Kernel.firstPid
    let task : Task Nat := do
      let _ ← Launch.byName (launch launchDepth) environment argv
      return 127
    let r : Running :=
      { pid, parent := Kernel.firstPid, group := session, session, task, ready := k.clock }
    let k := { k with processes := k.processes.push r, living := k.living ++ [handle] }
    let k := streams.foldl (fun k s => (k.openStream handle s).1) k
    .ok (⟨k⟩, handle)

/-- How many steps are taken at most while something is waited for. -/
def patience : Nat := 100000000

def hasEnded (m : Machine) (handle : Nat) : Bool := (m.kernel.process handle).ended.isSome

/-- Lets time pass. -/
def pass (m : Machine) (d : Duration) : Machine :=
  let limit := m.kernel.clock + d.nanos
  let k := Kernel.run isProgram (some limit) (fun _ => false) patience m.kernel
  ⟨{ k with clock := max k.clock limit }⟩

/-- Lets time pass until something holds, or nothing is left to be done. -/
def passUntil (m : Machine) (enough : Kernel → Bool) : Machine :=
  ⟨Kernel.run isProgram none enough patience m.kernel⟩

def passUntilEnd (m : Machine) (handle : Nat) : Machine :=
  m.passUntil fun k => (k.process handle).ended.isSome

/-- Runs a program to its end, without any input, until nobody can write any output any more. -/
def run (m : Machine) (argv : List String) : Except OsError (Output × Machine) := do
  let k := m.kernel
  let output := k.pipes.size
  let errors := output + 1
  let k := { k with pipes := k.pipes ++ #[{ kept := true }, { kept := true }] }
  let sink (number : Nat) : Stream := { vessel := .pipe number, readable := false }
  let (m, handle) ← start ⟨k⟩ argv [{}, sink output, sink errors] false
  let m := m.passUntil fun k =>
    (k.process handle).ended.isSome && !k.isHeld output true && !k.isHeld errors true
  let k := m.kernel
  let bytes (number : Nat) : List UInt8 := ((k.pipe number).read (k.pipe number).size).1
  return (Output.ofFinished ((k.process handle).ended.getD (.code 0)) (bytes output) (bytes errors),
    m)

def deliver (m : Machine) (handle signal : Nat) : Machine := ⟨m.kernel.deliver handle signal⟩

/-- Serves what is done to a child. -/
def answerChild : (r : Child.Request) → StateM Machine (Child.Answer r)
  | .poll p => do return .ok ((← get).hasEnded p.handle)
  | .terminate p => do
    modify (·.deliver p.handle 15)
    return .ok ()
  | .kill p => do
    modify (·.deliver p.handle 9)
    return .ok ()
  | .reap p => do
    modify (·.passUntilEnd p.handle)
    return .ok ()
  | .sleep d => modify (·.pass d)

/-- Lets time pass, a millisecond a round, until a path leads to something. -/
def awaitPath (path : String) : Nat → Machine → Machine
  | 0, m => m
  | rounds + 1, m =>
    if m.files.kindOf path = .missing then awaitPath path rounds (m.pass (.ofMillis 1)) else m

end Machine

/-- A machine, with what its user keeps of the children. -/
structure Bench where
  machine : Machine := .ofFiles .empty
  children : List Child := []
  /-- The log, its last entry first. -/
  entries : List Log.Entry := []
  deriving Inhabited

namespace Bench

/-- Does something to a child. -/
def onChild {α : Type} (p : Process) (act : Child.Action α) : StateM Bench (Except IoError α) :=
  fun b =>
    let ((a, children), machine) :=
      ((Child.on p act b.children).interpret Machine.answerChild).run b.machine
    (a, { b with machine, children })

/-- Serves what is done to processes, which are children here. -/
def answer : (r : Process.Request) → StateM Bench (Process.Answer r)
  | .hasExited p => onChild p Child.hasExited
  | .terminate p => onChild p Child.terminate
  | .kill p => onChild p Child.kill
  | .waitExit p d => onChild p (Child.waitExit d)
  | .log entry => modify fun b => { b with entries := entry :: b.entries }

/-- The process of a handle. -/
def processOf (handle : Nat) : Process := ⟨handle, Machine.Kernel.firstPid + handle⟩

/-- Stops a process gracefully. -/
def stop (p : Process) (grace : Duration) : StateM Bench (Except IoError Unit) :=
  (p.stop grace).run.interpret answer

/-- Runs a program to its end. -/
def run (argv : List String) : StateM Bench (Except IoError Output) := fun b =>
  match b.machine.run argv with
  | .ok (output, machine) => (.ok output, { b with machine })
  | .error e => (.error e.toIoError, b)

/-- Starts a program that has no streams. -/
def start (argv : List String) : StateM Bench (Except IoError Process) := fun b =>
  match b.machine.start argv [{}, {}, {}] true with
  | .ok (machine, handle) => (.ok (processOf handle), { b with machine })
  | .error e => (.error e.toIoError, b)

/-- Gives up a child; whether it goes on. -/
def release (p : Process) : StateM Bench Bool := do
  let _ ← onChild p (StateT.lift (ExceptT.lift (Child.release { process := p })))
  return !(← get).machine.hasEnded p.handle

end Bench

end Testbed.Rehearsal
