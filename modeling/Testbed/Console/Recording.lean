import Testbed.Fault
/-!
# Console recordings

A recording is a process that streams the console of one domain into a log file. This module holds
what starting and stopping one needs of the world, and both operations. A log file is only ever
added to, and it is removed again if it is still empty when its recording ends or never began.

| here | in the program |
| --- | --- |
| `Recording`, `Trouble` | `Session`, `MonitorError` |
| `beginRecording`, `tryRecording` | `try_start_session`, `start_session` |
| `stopRecording` | `stop_session` |
| `logName`, `removeIfEmpty` | `log_name`, `remove_if_empty` |
-/
namespace Testbed.Console

/-- A process that streams the console of a domain into a log file. -/
structure Recording where
  domid : Nat
  path : String
  process : Process
  deriving DecidableEq, Repr

/-- A moment by the clock on the wall. -/
structure LocalTime where
  year : Nat
  month : Nat
  day : Nat
  hour : Nat
  minute : Nat
  second : Nat
  millis : Nat
  deriving DecidableEq, Repr

/-- The moment as it stands in file names, `20240131-235959.042`. -/
def LocalTime.stamp (t : LocalTime) : String :=
  Text.padded 4 t.year ++ Text.padded 2 t.month ++ Text.padded 2 t.day ++ "-" ++
    Text.padded 2 t.hour ++ Text.padded 2 t.minute ++ Text.padded 2 t.second ++ "." ++
    Text.padded 3 t.millis

/-- Why a recording could not be started or looked after. -/
inductive Trouble
  | io (cause : IoError)
  | launch (failure : Failure)
  | query (fault : Fault)
  deriving DecidableEq, Repr

def Trouble.message : Trouble → String
  | .io cause => s!"io: {cause.text}"
  | .launch failure => s!"launch: {failure.message}"
  | .query fault => s!"query: {fault.message}"

/-! ## What recordings need of the world -/

namespace Device

/-- The requests made while consoles are looked after. A `subject` is whatever has a console. -/
inductive Request (ε : Type)
  /-- The host that the subject is on at the moment. -/
  | hostOf (subject : ε)
  /-- Starts streaming the console of a domain to the end of the file `log`. -/
  | launch (host : String) (domid : Nat) (log : String)
  | process (r : Process.Request)
  /-- Makes a directory and those above it, unless they are there. -/
  | makeDirs (path : String)
  /-- Makes a file unless it is there, and leaves its content alone. -/
  | openLog (path : String)
  | fileSize (path : String)
  | removeFile (path : String)
  | now
  /-- Starts the thread that makes the reconciliation passes. -/
  | startThread
  | log (entry : Log.Entry)

abbrev Answer (ε : Type) : Request ε → Type
  | .hostOf _ => String
  | .launch _ _ _ => Except Failure Process
  | .process r => Process.Answer r
  | .makeDirs _ => Except IoError Unit
  | .openLog _ => Except IoError Unit
  | .fileSize _ => Except IoError Nat
  | .removeFile _ => Except IoError Unit
  | .now => LocalTime
  | .startThread => Except IoError Nat
  | .log _ => Unit

def interface (ε : Type) : Interface := ⟨Request ε, Answer ε⟩

instance (ε : Type) : Interface.Embeds Process.interface (interface ε) where
  serve r := Program.request (I := interface ε) (.process r)

variable {ε : Type}

/-- Makes one request. -/
def ask (r : Request ε) : Program (interface ε) (Answer ε r) := Program.request (I := interface ε) r

/-- Logs about consoles. -/
def log (level : Log.Level) (text : String) : Program (interface ε) Unit :=
  ask (.log ⟨level, .console, text⟩)

end Device

/-- Programs that look after consoles. -/
abbrev Care (ε α : Type) := Program (Device.interface ε) α

/-- Programs that look after consoles and end at the first trouble. -/
abbrev RiskyCare (ε α : Type) := ExceptT Trouble (Program (Device.interface ε)) α

variable {ε : Type}

/-! ## Log files -/

/-- The name of a log. The colons and slashes of an address do not show in it, so that it names no
other directory. -/
def logName (host uuid : String) (t : LocalTime) : String :=
  let place := host.map fun c => if c = ':' || c = '/' then '-' else c
  s!"{place}_{uuid}_{t.stamp}.log"

/-- A path below a directory. -/
def pathIn (directory name : String) : String :=
  if directory.isEmpty then name
  else if directory.toList.getLast? = some '/' then directory ++ name
  else directory ++ "/" ++ name

def makeDirs (path : String) : RiskyCare ε Unit :=
  ExceptT.mk do return (← Device.ask (.makeDirs path)).mapError .io

def openLog (path : String) : RiskyCare ε Unit :=
  ExceptT.mk do return (← Device.ask (.openLog path)).mapError .io

/-- Removes a log that nothing was written to. -/
def removeIfEmpty (path : String) : Care ε Unit := do
  match ← Device.ask (.fileSize path) with
  | .ok size =>
    if size = 0 then
      match ← Device.ask (.removeFile path) with
      | .ok _ => return ()
      | .error e => Device.log .warn s!"failed to remove empty log {path}: {e.text}"
  | .error e => Device.log .debug s!"failed to stat log {path}: {e.text}"

/-! ## Starting and stopping -/

/-- Opens a log for the domain and starts streaming into it. A log that a failed launch left empty
is removed. -/
def beginRecording (s : Settings.Console) (uuid host : String) (domid : Nat) :
    RiskyCare ε Recording := do
  makeDirs s.logDir
  let path := pathIn s.logDir (logName host uuid (← ExceptT.lift (Device.ask .now)))
  openLog path
  match ← ExceptT.lift (Device.ask (.launch host domid path)) with
  | .ok process => return ⟨domid, path, process⟩
  | .error failure =>
    ExceptT.lift (removeIfEmpty path)
    throw (.launch failure)

/-- Starts a recording; that it could not be started is only logged. -/
def tryRecording (s : Settings.Console) (uuid host : String) (domid : Nat) :
    Care ε (Option Recording) := do
  match ← (beginRecording s uuid host domid).run with
  | .ok r =>
    let text := s!"console monitor: logging {uuid} (domid {Text.decimal domid}) to {r.path}"
    Device.log .info text
    return some r
  | .error e =>
    let text := s!"console monitor: failed to start logging {uuid} (domid {Text.decimal domid})"
    Device.log .warn s!"{text}: {e.message}"
    return none

/-- Stops the process of a recording and removes its log if that is empty. -/
def stopRecording (s : Settings.Console) (uuid : String) (r : Recording) : Care ε Unit := do
  let pid := Text.decimal r.process.pid
  Device.log .debug s!"console monitor: stopping logging of {uuid} (pid {pid})"
  if let .error e ← (r.process.stop s.stopGrace).run.embed then
    Device.log .warn s!"console monitor: failed to stop logging {uuid}: {e.text}"
  removeIfEmpty r.path

end Testbed.Console
