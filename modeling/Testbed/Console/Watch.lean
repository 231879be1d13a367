import Testbed.Console.Recording
import Testbed.PowerState
/-!
# Watches

A watch is kept on a subject whose console is to be recorded for as long as it lives. Reconciling a
watch with what was learnt about its subject is a small state machine: a subject in a terminal
state is given up, a live one is recorded once it has a domain, and its recording is replaced when
the process died or the domain changed. An old recording is stopped before a new one is started.

| here | in the program |
| --- | --- |
| `Watch`, its `subject` and its `place` | `Tracked`, its `entity` and its `host` |
| `Watch.reconcile` | `reconcile`, once the guest was asked |
-/
namespace Testbed.Console

/-- A subject under watch. -/
structure Watch (ε : Type) where
  /-- Tells apart two watches on one uuid, the second put up after the first was given up. -/
  id : Nat
  subject : ε
  /-- The host to go to, in place of the one that the subject names. -/
  host : Option String
  /-- Nothing while the subject lives but is not recorded. -/
  recording : Option Recording
  deriving DecidableEq, Repr

/-- What was learnt about a subject. The domain is not asked for in a terminal state. -/
structure Status where
  state : PowerState
  domid : Option Nat
  deriving DecidableEq, Repr

variable {ε : Type}

/-- The host to record a subject on. -/
def Watch.place (w : Watch ε) : Care ε String :=
  match w.host with
  | some host => return host
  | none => Device.ask (.hostOf w.subject)

/-- Starts to record the subject in a domain. -/
def Watch.record (s : Settings.Console) (uuid : String) (w : Watch ε) (domid : Nat) :
    Care ε (Watch ε) := do
  let host ← w.place
  return { w with recording := ← tryRecording s uuid host domid }

/-- Stops the recording of the subject if there is one. -/
def Watch.release (s : Settings.Console) (uuid : String) (w : Watch ε) : Care ε (Watch ε) := do
  if let some r := w.recording then stopRecording s uuid r
  return { w with recording := none }

/-- A domain in the words of the log. -/
def domidText : Option Nat → String
  | some domid => s!"Some({Text.decimal domid})"
  | none => "None"

/-- Whether the process of a recording is gone. -/
def hasExited (r : Recording) : RiskyCare ε Bool :=
  ExceptT.mk do return (← r.process.hasExited.run.embed).mapError .io

/-- Whether the subject needs another recording than it has, said to the log if it has one. -/
def needsRecording (uuid : String) (recording : Option Recording) (domid : Option Nat) :
    RiskyCare ε Bool :=
  match recording with
  | none => return domid.isSome
  | some r => do
    let exited ← hasExited r
    let old := Text.decimal r.domid
    if exited then
      let text := s!"console monitor: logging of {uuid} (domid {old}) exited unexpectedly"
      ExceptT.lift (Device.log .info text)
      return true
    else if domid ≠ some r.domid then
      let text := s!"console monitor: domid of {uuid} changed: {old} -> {domidText domid}"
      ExceptT.lift (Device.log .info text)
      return true
    else return false

/-- Brings a watch in line with what was learnt about its subject. The result is the watch as it is
to be kept, or nothing if the subject is given up. -/
def Watch.reconcile (s : Settings.Console) (uuid : String) (w : Watch ε) (status : Status) :
    RiskyCare ε (Option (Watch ε)) := do
  if status.state.isTerminal then
    let text := s!"console monitor: {uuid} is {status.state.name}, stop logging"
    ExceptT.lift (Device.log .info text)
    let _ ← ExceptT.lift (w.release s uuid)
    return none
  else if ← needsRecording uuid w.recording status.domid then
    let w ← ExceptT.lift (w.release s uuid)
    match status.domid with
    | some domid => return some (← ExceptT.lift (w.record s uuid domid))
    | none => return some w
  else return some w

end Testbed.Console
