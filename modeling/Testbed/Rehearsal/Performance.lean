import Testbed.CommandLine.Run
import Testbed.Rehearsal.Stage
/-!
# A run of the command line on stage

The whole program before scripted hosts: a signal is sent to it once it has run a number of
commands and attached a number of consoles.
-/
namespace Testbed.Rehearsal

open CommandLine

/-- A signal that is sent to the program, and when: once it has run and attached that much. -/
structure Cue where
  number : Nat
  calls : Nat := 0
  consoles : Nat := 0
  deriving DecidableEq, Repr

/-- The commands that ran to their end. -/
def World.calls (w : World) : List (List String) :=
  w.events.reverse.filterMap fun
    | .call argv => some argv
    | _ => none

/-- The commands that were started. -/
def World.spawned (w : World) : List (List String) :=
  w.events.reverse.filterMap fun
    | .spawn argv => some argv
    | _ => none

/-- The log entries. -/
def World.entries (w : World) : List Log.Entry :=
  w.events.reverse.filterMap fun
    | .log entry => some entry
    | _ => none

namespace Stage

/-- Whether it is time for a signal. -/
def isDue (cue : Cue) (s : Stage) : Bool :=
  cue.calls ≤ s.world.calls.length && cue.consoles ≤ s.world.spawned.length

/-- How often the passes are awaited before the signal is sent in any case. -/
def patience : Nat := 1000

/-- A run on stage; it yields nothing if a signal ends it before its time. -/
abbrev Mortal := OptionT Scene

/-- Lets the run end if a signal is due that it does not hold. Signals that a run holds until it
asks for them are those that `Signal` knows. -/
def endure (cue : Option Cue) (held : Bool) : Mortal Unit := do
  let s : Stage ← liftM (get : Scene Stage)
  match cue with
  | some cue =>
    if s.isDue cue && !(held && (Signal.ofNumber? cue.number).isSome) then failure
  | none => return ()

/-- Serves a run in which signals are held or not. -/
def answerRun (cue : Option Cue) :
    (r : CommandLine.Request Subject) → StateT Bool Mortal (CommandLine.Answer Subject r)
  | .command (.sleep d) => do
    endure cue (← get)
    liftM (play (World.answerTransport (.sleep d)))
  | .command r => liftM (play (World.answerTransport r))
  | .monitor r => liftM (answerCall 0 (fun _ => (pure () : Scene Unit)) r)
  | .holdSignals => do
    set true
    return .ok ()
  | .awaitSignal => do
    let due (s : Stage) : Bool := cue.any s.isDue
    let _ ← liftM (await due patience)
    match cue.bind fun cue => Signal.ofNumber? cue.number with
    | some signal => return { signal, sender := some (1, 0) }
    | none => failure

/-- Does an invocation. There is no ending if a signal makes an end of it. -/
def invoke (cue : Option Cue) (i : Invocation) : Scene (Option Ending) := do
  modify fun s => { s with
    posts := #[{ settings := i.settings.console, launcher := .attached ⟨i.settings.ssh⟩ }]
    charge := some 0 }
  let files := (← get).world.files
  let run := (i.run Subject.fixed files.kindOf).run.interpret (answerRun cue)
  match ← (run.run' false).run with
  | some (.ok finish) => return some finish.ending
  | some (.error complaint) => return some complaint.ending
  | none => return none

end Stage

/-- What is written to standard error in a run: the entries shown, then the report if it comes to
one. -/
def errorText (filter : LogFilter) (warnings : List String) (entries : List Log.Entry)
    (ending : Option Ending) : String :=
  let time := "2024-01-01T00:00:00Z"
  let shown := (entries.filter filter.shows).map (logLine time)
  Text.join "" ((warnings ++ shown ++ (ending.bind (·.report)).toList).map (· ++ "\n"))

end Testbed.Rehearsal
