import Testbed.CommandLine.Invocation
import Testbed.CommandLine.Report
import Testbed.Console.Attach
import Testbed.Host
/-!
# Runs

What the program does for an invocation: it checks the settings before anything else, then does the
task. A run ends with an exit code and what is to be printed, or with a complaint.

| here | in the program |
| --- | --- |
| `Run.perform` | the commands of `main` |
| `Run.logConsoles` | `console_log` |
-/
namespace Testbed.CommandLine

/-- The signals that end the logging of consoles. -/
inductive Signal
  | interrupt
  | quit
  | terminate
  deriving DecidableEq, Repr

namespace Signal

def number : Signal → Nat
  | .interrupt => 2
  | .quit => 3
  | .terminate => 15

def ofNumber? : Nat → Option Signal
  | 2 => some .interrupt
  | 3 => some .quit
  | 15 => some .terminate
  | _ => none

def name : Signal → String
  | .interrupt => "SIGINT"
  | .quit => "SIGQUIT"
  | .terminate => "SIGTERM"

end Signal

/-- A signal and the process and user that it came from, if they are known. -/
structure Caught where
  signal : Signal
  sender : Option (Nat × Nat) := none
  deriving DecidableEq, Repr

/-- What a run needs. The subjects `ε` of the monitor stand for guests. -/
inductive Request (ε : Type)
  | command (r : Transport.Request)
  | monitor (r : Console.Monitor.Request ε)
  /-- From here on signals wait until they are asked for. -/
  | holdSignals
  | awaitSignal

abbrev Answer (ε : Type) : Request ε → Type
  | .command r => Transport.Answer r
  | .monitor r => Console.Monitor.Answer ε r
  | .holdSignals => Except IoError Unit
  | .awaitSignal => Caught

def interface (ε : Type) : Interface := ⟨Request ε, Answer ε⟩

instance (ε : Type) : Interface.Embeds Transport.interface (interface ε) where
  serve r := Program.request (I := interface ε) (.command r)

instance (ε : Type) : Interface.Embeds (Console.Monitor.interface ε) (interface ε) where
  serve r := Program.request (I := interface ε) (.monitor r)

/-- How a run ends that did what it was asked for. -/
structure Finish where
  code : Int := 0
  /-- What goes to standard output. -/
  printed : List UInt8 := []
  deriving DecidableEq, Repr

/-- What a run leaves to whoever made it. -/
structure Ending where
  status : Nat
  printed : List UInt8 := []
  /-- What goes to standard error last. -/
  report : Option String := none
  deriving DecidableEq, Repr

/-- A process hands over the low byte of its exit code. -/
def Finish.ending (f : Finish) : Ending := { status := (f.code % 256).toNat, printed := f.printed }

def Complaint.ending (c : Complaint) : Ending := { status := 1, report := some c.report }

def Refusal.ending : Refusal → Ending
  | .notUnderstood =>
    { status := 1
      report := some "error: the arguments are not understood\n\nFor more information try --help" }
  | .taskMissing => { status := 1, report := some usagePage }
  | .helpWanted => { status := 0, printed := Text.encode (usagePage ++ "\n") }
  | .versionWanted task => { status := 0, printed := Text.encode (versionText task ++ "\n") }

/-- Runs, which end at the first complaint. -/
abbrev Run (ε α : Type) := ExceptT Complaint (Program (interface ε)) α

namespace Run

variable {ε α : Type}

/-- Runs commands; a failure is what led to the complaint. -/
def commands (complaint : List String → Complaint) (p : Transport.Action α) : Run ε α :=
  ExceptT.adapt (fun failure => complaint (Complaint.causesOf failure)) (ExceptT.mk p.run.embed)

/-- Does something in the pool; a fault is what led to the complaint. -/
def operation (complaint : Fault → Complaint) (p : Operation α) : Run ε α :=
  ExceptT.adapt complaint (ExceptT.mk p.run.embed)

/-- Makes a call of the console monitor. -/
def monitor (call : Console.Call ε α) : Run ε α := ExceptT.lift call.embed

def log (level : Log.Level) (text : String) : Run ε Unit :=
  ExceptT.lift (Program.request (I := interface ε) (.command (.log ⟨level, .commandLine, text⟩)))

def holdSignals : Run ε Unit := ExceptT.mk do
  match ← Program.request (I := interface ε) .holdSignals with
  | .ok _ => return .ok ()
  | .error e => return .error ⟨"failed to setup signal handler", [e.text]⟩

def awaitSignal : Run ε Caught := ExceptT.lift (Program.request (I := interface ε) .awaitSignal)

/-- Puts up watches on guests; the log tells which of them do not run. -/
def watchAll (subjectOf : Guest → ε) (host : Host) : List String → Run ε Unit
  | [] => return ()
  | uuid :: rest => do
    unless ← monitor (Console.Monitor.add uuid (subjectOf ⟨uuid, host⟩) none) do
      log .warn s!"{uuid} is not running, not logging it"
    watchAll subjectOf host rest

/-- Logs consoles until a signal comes. Signals are held from the beginning, so that one that comes
while consoles are being attached leaves none behind. -/
def logConsoles (subjectOf : Guest → ε) (settings : Settings.Console) (host : Host)
    (named : List String) : Run ε Finish := do
  holdSignals
  let guests ← if named.isEmpty then
      operation (fun fault => ⟨s!"failed to list guests of {host.address}",
        Complaint.causesOfFault fault⟩) (host.guestUuids true)
    else pure named
  if guests.isEmpty then log .warn s!"No running guest on {host.address}"
  watchAll subjectOf host guests
  let caught ← awaitSignal
  let sender := match caught.sender with
    | some (pid, uid) => s!"(pid: {Text.decimal pid}, uid: {Text.decimal uid})"
    | none => "unknown"
  let number := Text.decimal caught.signal.number
  log .info s!"{caught.signal.name}({number}) recved, from: {sender}"
  monitor (Console.Monitor.shutdown settings)
  log .info "All done"
  return {}

/-- Does a task. -/
def perform (subjectOf : Guest → ε) (settings : Settings) (task : Task) : Run ε Finish := do
  let transport : Transport := ⟨settings.ssh⟩
  match task with
  | .exec host command options =>
    let result ← commands (⟨s!"failed to run command on {host}", ·⟩)
      (transport.runRemote host command options)
    return { code := result.code, printed := result.output }
  | .copy host source target direction =>
    let _ ← commands (⟨s!"failed to copy {source}", ·⟩)
      (transport.copy host source target { direction })
    return {}
  | .awaitHost host timeout =>
    let host : Host := ⟨host, transport, settings.wait⟩
    operation Complaint.ofFault (host.awaitReachable timeout)
    return {}
  | .logConsoles host guests =>
    logConsoles subjectOf settings.console ⟨host, transport, settings.wait⟩ guests

end Run

/-- Checks the settings of an invocation and does its task. -/
def Invocation.run {ε : Type} (subjectOf : Guest → ε) (kindOf : String → PathKind)
    (i : Invocation) : Run ε Finish :=
  match i.settings.check kindOf with
  | .error defect => throw (.ofDefect defect)
  | .ok _ => Run.perform subjectOf i.settings i.task

end Testbed.CommandLine
