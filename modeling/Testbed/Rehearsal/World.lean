import Testbed.Console.Attach
import Testbed.Rehearsal.Machine
import Testbed.Rehearsal.Rules
/-!
# A scripted world

The world of a rehearsal answers every request of the library by a script: commands by rules,
guests and processes by what they were told to do, files by a tree of its own. What happens is
written down in order, so that a rehearsal can be compared with what was meant to happen.

A world stands for what the library is used in, and is no part of it: programs are defined, and what
they do is stated, for whatever answers they get. `leaves_of_run` is the way back from here: each
rehearsal is a run of the program, so what holds of every run is seen in it.
-/
namespace Testbed.Rehearsal

/-- What happened. Processes go by their labels. -/
inductive Event
  | log (entry : Log.Entry)
  /-- A command that ran to its end. -/
  | call (argv : List String)
  /-- A command that was started. -/
  | spawn (argv : List String)
  | launch (host : String) (domid : Nat)
  | powerState (uuid : String)
  | domid (uuid : String)
  | hasExited (label : String)
  | terminate (label : String)
  | kill (label : String)
  | waitExit (label : String) (timeout : Duration)
  /-- A mark left by whoever directs the rehearsal. -/
  | mark (n : Nat)
  deriving Repr, DecidableEq

/-- The operations on a process, as a script can make them fail. -/
inductive Method
  | hasExited
  | terminate
  | kill
  | waitExit
  deriving DecidableEq, Repr

/-- A process that does what it is told. -/
structure Puppet where
  name : String
  label : String
  pid : Nat
  /-- The number of the file that its output goes to. -/
  log : Option Nat
  exited : Bool := false
  /-- Whether it goes on when it is asked to exit. -/
  stubborn : Bool := false
  failures : List (Method × String) := []
  deriving Repr, Inhabited

/-- Why a scripted guest gives no answer. -/
inductive Refusal
  | unreachable
  | timeout
  | unexpected (what : String)
  deriving DecidableEq, Repr

/-- A guest that answers as it is told. -/
structure Actor where
  uuid : String
  host : String
  state : PowerState := .running
  domid : Option Nat := none
  refusesState : Option Refusal := none
  refusesDomid : Option Refusal := none
  /-- Whether its answers are held back. -/
  withheld : Bool := false
  deriving Repr, Inhabited

def Refusal.fault (host : String) : Refusal → Fault
  | .unreachable => .command (.unreachable host "xe vm-param-get" 255 "Connection refused")
  | .timeout => .timeout ⟨none, true, .ofMillis 1250⟩
  | .unexpected what => .unexpected what "??"

/-- What has a console: a scripted guest, one of the pool by its number, or one of the pool that
stays as it is. -/
inductive Subject
  | actor (n : Nat)
  | guest (n : Nat)
  | fixed (g : Guest)
  deriving DecidableEq, Repr

/-- How consoles are attached: as a script says, or over ssh. -/
inductive Launcher
  | scripted
  | attached (t : Transport)

/-- How commands are played. -/
inductive Staging
  /-- As the rules say. A command that is started prints nothing. -/
  | told
  /-- By programs that follow the rules. Their exit codes are bytes, and one that is started writes
  its output and stays. -/
  | acted
  /-- There is no program of any name. -/
  | missing
  /-- By the programs of a machine that works on the same files. -/
  | real
  deriving DecidableEq, Repr

structure World where
  staging : Staging := .told
  rules : List Rule := []
  files : Files := .empty
  /-- Milliseconds since midnight. -/
  clock : Nat := 0
  /-- The events so far, the last one first. -/
  events : List Event := []
  /-- The rank of the last level of log entries that are written down. -/
  maxRank : Nat := 4
  puppets : Array Puppet := #[]
  actors : Array Actor := #[]
  guests : Array Guest := #[]
  /-- Why scripted launches fail. -/
  launchError : Option String := none
  /-- What every scripted launch writes to its log. -/
  launchOutput : List UInt8 := []
  threads : Nat := 0
  /-- What real commands run on. -/
  machine : Machine := .ofFiles .empty

/-- What changes the world. -/
abbrev Play := StateM World

namespace World

def record (e : Event) : Play Unit := modify fun w => { w with events := e :: w.events }

def recordLog (entry : Log.Entry) : Play Unit := do
  if entry.level.rank ≤ (← get).maxRank then record (.log entry)

def pass (d : Duration) : Play Unit :=
  modify fun w => { w with clock := w.clock + d.nanos / Duration.millisecond }

/-- The clock on the wall, which stands on one day in a rehearsal. -/
def localTime (clock : Nat) : Console.LocalTime :=
  ⟨2024, 1, 1, clock / 3600000 % 24, clock / 60000 % 60, clock / 1000 % 60, clock % 1000⟩

/-- Starts a process under a new label: `name` and how many of that name there are by now. -/
def startPuppet (name : String) (pid : Nat) (log : Option String) : Play Process := do
  let w ← get
  let earlier := (w.puppets.filter fun p => p.name = name).size
  let file := log.bind fun path =>
    match w.files.find path with
    | .ok (.file f) => some f.id
    | _ => none
  let label := s!"{name}#{Text.decimal (earlier + 1)}"
  set { w with puppets := w.puppets.push { name, label, pid, log := file } }
  return ⟨w.puppets.size, pid⟩

/-- The response of the rules to a command. -/
def respond (argv : List String) : Play Response := do
  let w ← get
  let (response, rules) := answerBy argv w.rules
  set { w with rules }
  return response

/-- The exit code that is reported: a command that a signal ends has none of its own. -/
def exitCode (staging : Staging) (r : Response) : Int :=
  if r.signal.isSome then -1 else if staging = .acted then r.code % 256 else r.code

/-- Runs a command on the machine, which works on the files of the world. -/
def runReal (argv : List String) : Play (Except IoError Output) := fun w =>
  match (⟨{ w.machine.kernel with files := w.files }⟩ : Machine).run argv with
  | .ok (output, machine) => (.ok output, { w with files := machine.files, machine })
  | .error e => (.error e.toIoError, w)

/-- Answers a command. -/
def runCommand (argv : List String) : Play (Except IoError Output) := do
  let staging := (← get).staging
  if staging = .missing then return .error OsError.notFound.toIoError
  if staging = .real then return (← runReal argv)
  record (.call argv)
  let response ← respond argv
  match response.ioError with
  | some text => return .error ⟨text⟩
  | none => return .ok ⟨exitCode staging response, response.output ++ response.errors⟩

/-- Writes to the file that a process has open. -/
def writeLog (file : Option Nat) (bytes : List UInt8) : Play Unit :=
  match file with
  | some id => modify fun w => { w with files := w.files.append id bytes }
  | none => return ()

/-- Answers the start of a command. -/
def startCommand (argv : List String) (log : Option String) : Play (Except IoError Process) := do
  let staging := (← get).staging
  if staging = .missing then return .error OsError.notFound.toIoError
  record (.spawn argv)
  let response ← respond argv
  match response.ioError with
  | some text => return .error ⟨text⟩
  | none =>
    let name := " ".intercalate (argv.drop (argv.length - 2))
    let process ← startPuppet name 1000 log
    if staging = .acted then
      let file := (← get).puppets[process.handle]?.bind (·.log)
      writeLog file (response.output ++ response.errors)
    return .ok process

def answerTransport : (r : Transport.Request) → Play (Transport.Answer r)
  | .run argv => runCommand argv
  | .start argv log => startCommand argv log
  | .sleep d => pass d
  | .log entry => recordLog entry

/-- Runs a program of commands in the world. -/
def run {α : Type} (p : Program Transport.interface α) : Play α := p.interpret answerTransport

/-- Writes down an operation on a process and does it unless the script makes it fail. -/
def onPuppet {α : Type} (p : Process) (m : Method) (event : String → Event)
    (act : Puppet → α × Puppet) : Play (Except IoError α) := do
  let puppet := (← get).puppets[p.handle]?.getD default
  record (event puppet.label)
  match puppet.failures.lookup m with
  | some text => return .error ⟨text⟩
  | none =>
    let (a, puppet) := act puppet
    modify fun w => { w with puppets := w.puppets.setIfInBounds p.handle puppet }
    return .ok a

def answerProcess : (r : Process.Request) → Play (Process.Answer r)
  | .hasExited p => onPuppet p .hasExited .hasExited fun q => (q.exited, q)
  | .terminate p =>
    onPuppet p .terminate .terminate fun q => ((), { q with exited := q.exited || !q.stubborn })
  | .kill p => onPuppet p .kill .kill fun q => ((), { q with exited := true })
  | .waitExit p d => onPuppet p .waitExit (.waitExit · d) fun q => (q.exited, q)
  | .log entry => recordLog entry

def scriptedLaunch (host : String) (domid : Nat) (log : String) :
    Play (Except Failure Process) := do
  record (.launch host domid)
  pass (.ofMillis 2)
  let w ← get
  let file := match w.files.find log with
    | .ok (.file f) => some f.id
    | _ => none
  writeLog file w.launchOutput
  match w.launchError with
  | some text => return .error (.notStarted "xl console" ⟨text⟩)
  | none => return .ok (← startPuppet s!"{host}/{Text.decimal domid}" (1000 + domid % 1000) log)

/-- Does something to the files that the operating system may refuse. -/
def onFiles (act : Files → Except OsError Unit × Files) : Play (Except IoError Unit) := do
  let (outcome, files) := act (← get).files
  modify fun w => { w with files }
  return outcome.mapError OsError.toIoError

def removeFile (path : String) : Play (Except IoError Unit) :=
  onFiles fun t =>
    match t.remove path with
    | .ok t => (.ok (), t)
    | .error e => (.error e, t)

def openLog (path : String) : Play (Except IoError Unit) :=
  onFiles fun t =>
    match t.openAppend path with
    | .ok (t, _) => (.ok (), t)
    | .error e => (.error e, t)

def hostOf : Subject → World → String
  | .actor n, w => (w.actors[n]?.getD default).host
  | .guest n, w => (w.guests[n]?.map fun g => (Console.viewOf g).host).getD ""
  | .fixed g, _ => (Console.viewOf g).host

def uuidOf : Subject → World → String
  | .actor n, w => (w.actors[n]?.getD default).uuid
  | .guest n, w => (w.guests[n]?.map fun g => (Console.viewOf g).uuid).getD ""
  | .fixed g, _ => (Console.viewOf g).uuid

def answerDevice (launcher : Launcher) :
    (r : Console.Device.Request Subject) → Play (Console.Device.Answer Subject r)
  | .hostOf s => return hostOf s (← get)
  | .launch host domid log =>
    match launcher with
    | .scripted => scriptedLaunch host domid log
    | .attached t => run (Console.attach t host domid log).run
  | .process r => answerProcess r
  | .makeDirs path => onFiles (·.makeDirs path)
  | .openLog path => openLog path
  | .fileSize path => return ((← get).files.size path).mapError OsError.toIoError
  | .removeFile path => removeFile path
  | .now => do
    pass (.ofMillis 1)
    return localTime (← get).clock
  | .startThread => modifyGet fun w => (.ok w.threads, { w with threads := w.threads + 1 })
  | .log entry => recordLog entry

/-- Answers a monitor that asks a subject for its state. -/
def askState (s : Subject) : Play (Except Fault PowerState) := do
  match s with
  | .actor n =>
    let a := (← get).actors[n]?.getD default
    match a.refusesState with
    | some r => return .error (r.fault a.host)
    | none => return .ok a.state
  | .guest n =>
    match (← get).guests[n]? with
    | some g => run (Console.viewOf g).powerState.run
    | none => return .ok .unknown
  | .fixed g => run (Console.viewOf g).powerState.run

/-- Answers a monitor that asks a subject for its domain. -/
def askDomid (s : Subject) : Play (Except Fault (Option Nat)) := do
  record (.domid (uuidOf s (← get)))
  match s with
  | .actor n =>
    let a := (← get).actors[n]?.getD default
    match a.refusesDomid with
    | some r => return .error (r.fault a.host)
    | none => return .ok a.domid
  | .guest n =>
    match (← get).guests[n]? with
    | some g => run (Console.viewOf g).domid.run
    | none => return .ok none
  | .fixed g => run (Console.viewOf g).domid.run

end World

end Testbed.Rehearsal
