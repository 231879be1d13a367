import Testbed.Duration
/-!
# Settings

How hosts are logged into, how consoles are logged, and how long conditions are waited for.
`Settings.check` refuses settings that cannot work: the first defect in the order of the fields
is reported, ssh before consoles before waits.

| here | in the program |
| --- | --- |
| `Settings.Ssh`, `Settings.Console`, `Settings.Wait` | `ExecConfig`, `MonitorConfig`, `WaitConfig` |
| `Settings.check` and the checks of its parts | `check` of each of them |
| `checkPositive` | `check_positive` |
| `Defect` | `ConfigError` |
-/
namespace Testbed

/-- What a path leads to. -/
inductive PathKind
  | missing
  | file
  | directory
  | other
  deriving DecidableEq, Repr

namespace Settings

/-- How hosts are logged into and what is logged of it. -/
structure Ssh where
  user : String := "root"
  /-- The secret key; without one ssh picks its own. -/
  key : Option String := none
  connectTimeout : Duration := .ofSeconds 10
  /-- Whether host keys go unchecked unless a command says otherwise. -/
  ignoreHostKeys : Bool := true
  /-- Whether hosts print a banner on every command, to be taken off its output. -/
  stripBanner : Bool := false
  /-- The number of output lines shown in the log. -/
  maxLogLines : Nat := 20
  deriving DecidableEq, Repr

/-- How the consoles of guests are logged. -/
structure Console where
  logDir : String := "console_logs"
  /-- The pause between two reconciliation passes. -/
  interval : Duration := .ofSeconds 3
  /-- How long a shutdown waits for the reconciliation thread. -/
  joinTimeout : Duration := .ofSeconds 2
  /-- How long a logging process may take to exit before it is killed. -/
  stopGrace : Duration := .ofSeconds 5
  deriving DecidableEq, Repr

/-- How long conditions are waited for. -/
structure Wait where
  timeout : Duration := .ofSeconds 120
  retryDelay : Duration := .ofSeconds 2
  deriving DecidableEq, Repr

/-- Why settings are refused. -/
inductive Defect
  | emptyUser
  | keyNotAFile (path : String)
  | tooFewLogLines (lines : Nat)
  | notPositive (name : String)
  | logDirNotADirectory (path : String)
  deriving DecidableEq, Repr

def Defect.message : Defect → String
  | .emptyUser => "empty ssh username"
  | .keyNotAFile path => s!"invalid ssh key path: {path}"
  | .tooFewLogLines lines =>
    s!"invalid max log lines '{Text.decimal lines}': should be at least 2"
  | .notPositive name => s!"invalid duration for '{name}': should be positive"
  | .logDirNotADirectory path => s!"log dir '{path}' exists and is not a directory"

def checkPositive (name : String) (d : Duration) : Except Defect Unit :=
  if d = .zero then .error (.notPositive name) else .ok ()

/-- A key has to be a file, and the log needs room for one line and the elision marker. -/
def Ssh.check (kindOf : String → PathKind) (s : Ssh) : Except Defect Unit := do
  if s.user.isEmpty then throw .emptyUser
  if let some key := s.key then
    if kindOf key ≠ .file then throw (.keyNotAFile key)
  if s.maxLogLines < 2 then throw (.tooFewLogLines s.maxLogLines)
  checkPositive "connect_timeout" s.connectTimeout

/-- The log directory may be missing; it is made when it is needed. -/
def Console.check (kindOf : String → PathKind) (s : Console) : Except Defect Unit := do
  if kindOf s.logDir ≠ .missing ∧ kindOf s.logDir ≠ .directory then
    throw (.logDirNotADirectory s.logDir)
  checkPositive "interval" s.interval
  checkPositive "join_timeout" s.joinTimeout
  checkPositive "stop_grace" s.stopGrace

def Wait.check (s : Wait) : Except Defect Unit := do
  checkPositive "timeout" s.timeout
  checkPositive "retry_delay" s.retryDelay

end Settings

/-- All settings. -/
structure Settings where
  ssh : Settings.Ssh := {}
  console : Settings.Console := {}
  wait : Settings.Wait := {}
  deriving DecidableEq, Repr

/-- Whether the settings can work, given what paths lead to. -/
def Settings.check (kindOf : String → PathKind) (s : Settings) : Except Settings.Defect Unit := do
  s.ssh.check kindOf
  s.console.check kindOf
  s.wait.check

end Testbed
