import Testbed.CommandLine.Run
import Testbed.Process.Child
import Testbed.Shell.Words
/-!
# The program

The outermost layer. A run is served by an attendant: what the run needs of the machine goes to
standard output as one line of words, quoted as for a shell, and the attendant answers with one
line of words on standard input. Log entries and the report go to standard error. At the end a line
`end` tells the exit code and what is to be printed, as hexadecimal digits.
-/
namespace Testbed.Main

open CommandLine

/-- What is kept while the program runs. -/
structure Held where
  settings : Settings.Console
  filter : LogFilter
  monitor : Console.Monitor.State Guest := {}
  children : List Child := []
  /-- Whether the passes are due at intervals. -/
  passing : Bool := false

abbrev Served := StateT Held IO

/-- Puts a question to the attendant. -/
def consult (words : List String) : IO (List String) := do
  let stdout ← IO.getStdout
  stdout.putStrLn (Shell.joinWords words)
  stdout.flush
  let line ← (← IO.getStdin).getLine
  return (Shell.split line).getD []

def hexDigit (n : Nat) : Char := Nat.digitChar (n % 16)

def hex (bytes : List UInt8) : String :=
  String.ofList (bytes.flatMap fun b => [hexDigit (b.toNat / 16), hexDigit b.toNat])

def hexValue (c : Char) : Nat :=
  if c.isDigit then c.toNat - '0'.toNat else c.toLower.toNat - 'a'.toNat + 10

def unhex : List Char → List UInt8
  | a :: b :: rest => UInt8.ofNat (hexValue a * 16 + hexValue b) :: unhex rest
  | _ => []

def number (word : String) : Nat := (Text.unsigned64? word).getD 0

/-- An answer that is `ok` with words, or anything else with the text of an error. -/
def verdict {α : Type} (f : List String → α) : List String → Except IoError α
  | "ok" :: words => .ok (f words)
  | _ :: words => .error ⟨Text.join " " words⟩
  | [] => .error ⟨"no answer"⟩

def done : List String → Unit := fun _ => ()

def yes : List String → Bool := (· = ["yes"])

def pidWords (p : Process) : List String := [Text.decimal p.handle, Text.decimal p.pid]

def processOf : List String → Process
  | [handle, pid] => ⟨number handle, number pid⟩
  | _ => ⟨0, 0⟩

def now : IO Console.LocalTime := do
  match (← consult ["now"]).map number with
  | [year, month, day, hour, minute, second, millis] =>
    return ⟨year, month, day, hour, minute, second, millis⟩
  | _ => return ⟨0, 0, 0, 0, 0, 0, 0⟩

def showEntry (e : Log.Entry) : Served Unit := do
  if (← get).filter.shows e then
    let time := (← consult ["time"]).headD ""
    (← IO.getStderr).putStrLn (logLine time e)

def serveTransport : (r : Transport.Request) → Served (Transport.Answer r)
  | .run argv => do
    let read : List String → Output
      | [code, bytes] => ⟨(Text.signed64? code).getD 0, unhex bytes.toList⟩
      | _ => ⟨0, []⟩
    return verdict read (← consult ("run" :: argv))
  | .start argv log => do return verdict processOf (← consult ("start" :: log.getD "" :: argv))
  | .sleep d => do
    let _ ← consult ["sleep", Text.decimal d.nanos]
  | .log entry => showEntry entry

def serveChild : (r : Child.Request) → IO (Child.Answer r)
  | .poll p => do return verdict yes (← consult ("poll" :: pidWords p))
  | .terminate p => do return verdict done (← consult ("terminate" :: pidWords p))
  | .kill p => do return verdict done (← consult ("kill" :: pidWords p))
  | .reap p => do return verdict done (← consult ("reap" :: pidWords p))
  | .sleep d => do
    let _ ← consult ["sleep", Text.decimal d.nanos]

def onChild {α : Type} (p : Process) (act : Child.Action α) : Served (Except IoError α) := do
  let (a, children) ← ((Child.on p act (← get).children).interpret serveChild : IO _)
  modify fun h => { h with children }
  return a

def serveProcess : (r : Process.Request) → Served (Process.Answer r)
  | .hasExited p => onChild p Child.hasExited
  | .terminate p => onChild p Child.terminate
  | .kill p => onChild p Child.kill
  | .waitExit p d => onChild p (Child.waitExit d)
  | .log entry => showEntry entry

def serveDevice (transport : Transport) :
    (r : Console.Device.Request Guest) → Served (Console.Device.Answer Guest r)
  | .hostOf g => return (Console.viewOf g).host
  | .launch host domid log => (Console.attach transport host domid log).run.interpret serveTransport
  | .process r => serveProcess r
  | .makeDirs path => do return verdict done (← consult ["makedirs", path])
  | .openLog path => do return verdict done (← consult ["open", path])
  | .fileSize path => do return verdict (number <| ·.headD "") (← consult ["size", path])
  | .removeFile path => do return verdict done (← consult ["remove", path])
  | .now => now
  | .startThread => do
    modify fun h => { h with passing := true }
    return .ok 0
  | .log entry => showEntry entry

def serveMonitor (transport : Transport) :
    (r : Console.Monitor.Request Guest) → Served (Console.Monitor.Answer Guest r)
  | .locked c => do
    let h ← get
    let (a, monitor) ← (c.perform h.settings h.monitor).interpret (serveDevice transport)
    modify fun h => { h with monitor }
    return a
  | .powerState g => (Console.viewOf g).powerState.run.interpret serveTransport
  | .domid g => (Console.viewOf g).domid.run.interpret serveTransport
  | .stop uuid r => do
    (Console.stopRecording (← get).settings uuid r).interpret (serveDevice transport)
  | .join _ _ => do
    modify fun h => { h with passing := false }
    return true
  | .log entry => showEntry entry

/-- Waits for a signal. The attendant tells when it is time for a pass. -/
partial def awaitSignal (transport : Transport) : Served Caught := do
  let h ← get
  let interval := if h.passing then Text.decimal h.settings.interval.nanos else ""
  match ← consult ["await", interval] with
  | ["signal", signal, pid, uid] =>
    match Signal.ofNumber? (number signal) with
    | some signal => return { signal, sender := some (number pid, number uid) }
    | none => awaitSignal transport
  | ["pass"] =>
    (Console.Monitor.pass : Console.Call Guest Unit).interpret (serveMonitor transport)
    awaitSignal transport
  | _ => return { signal := .terminate }

def serve (transport : Transport) : (r : CommandLine.Request Guest) →
    Served (CommandLine.Answer Guest r)
  | .command r => serveTransport r
  | .monitor r => serveMonitor transport r
  | .holdSignals => return .ok ()
  | .awaitSignal => awaitSignal transport

def kindOf (path : String) : IO PathKind := do
  match ← consult ["kind", path] with
  | ["file"] => return .file
  | ["directory"] => return .directory
  | ["missing"] => return .missing
  | _ => return .other

/-- Does an invocation. -/
def perform (i : Invocation) : Served Ending := do
  let key ← match i.settings.ssh.key with
    | some path => kindOf path
    | none => pure .missing
  let logDir ← kindOf i.settings.console.logDir
  let kinds (path : String) : PathKind :=
    if some path = i.settings.ssh.key then key else logDir
  match ← (i.run id kinds).run.interpret (serve ⟨i.settings.ssh⟩) with
  | .ok finish => return finish.ending
  | .error complaint => return complaint.ending

def run (args : List String) : IO Ending := do
  let spec := (← IO.getEnv "POOLCHECK_LOG").getD "info"
  let (filter, warnings) := LogFilter.parse spec
  match Invocation.ofArguments args with
  | .error refusal => return refusal.ending
  | .ok i =>
    for warning in warnings do (← IO.getStderr).putStrLn warning
    (perform i).run' { settings := i.settings.console, filter }

end Testbed.Main

def main (args : List String) : IO UInt32 := do
  let ending ← Testbed.Main.run args
  for report in ending.report do (← IO.getStderr).putStrLn report
  (← IO.getStdout).putStrLn
    (Testbed.Shell.joinWords
      ["end", Testbed.Text.decimal ending.status, Testbed.Main.hex ending.printed])
  return UInt32.ofNat ending.status
