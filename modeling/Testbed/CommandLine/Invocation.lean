import Testbed.CommandLine.Arguments
import Testbed.Transport
/-!
# Invocations

What a command line asks for: the settings of the run and its task. The options of all tasks stand
before the name of the task, its own options behind it.
-/
namespace Testbed.CommandLine

/-- What is to be done. -/
inductive Task
  /-- Run a command on a host and end with its exit code. -/
  | exec (host : String) (command : Command) (options : RunOptions)
  | copy (host source target : String) (direction : Ssh.Direction)
  /-- Wait until a host answers. -/
  | awaitHost (host : String) (timeout : Duration)
  /-- Log consoles until a signal comes; with no guests named, of all that run on the host. -/
  | logConsoles (host : String) (guests : List String)
  deriving DecidableEq, Repr

/-- Settings and task of a run. -/
structure Invocation where
  settings : Settings
  task : Task
  deriving DecidableEq, Repr

namespace Invocation

/-- The options of all tasks. -/
def common : Grammar :=
  { switches :=
      [{ name := "ssh-user", letter := some 'u', arity := .one (some "root") },
       { name := "ssh-key", letter := some 's', arity := .one none },
       { name := "connect-timeout", arity := .one (some "10") },
       { name := "host-key-checks" },
       { name := "strip-banner" },
       { name := "max-log-lines", arity := .one (some "20") },
       { name := "retry-delay", arity := .one (some "2") }] }

/-- The option that every task has. -/
def hostSwitch : Switch :=
  { name := "host", letter := some 'H', arity := .one none, required := true }

def execGrammar : Grammar :=
  { switches := [hostSwitch, { name := "no-check" }, { name := "windows" }]
    fewest := 1, unlimited := true }

def copyGrammar : Grammar := { switches := [hostSwitch, { name := "reverse" }], fewest := 2 }

def awaitGrammar : Grammar :=
  { switches := [hostSwitch, { name := "timeout", arity := .one (some "120") }] }

def consoleGrammar : Grammar :=
  { switches :=
      [hostSwitch,
       { name := "vm", arity := .many },
       { name := "log-dir", arity := .one (some "console_logs") },
       { name := "interval", arity := .one (some "3") }] }

/-- The names of the tasks. -/
def taskNames : List String := ["exec", "copy", "wait-host", "console-log", "help"]

/-- The value of an option as text. -/
def text (g : Grammar) (s : Scan) (name : String) : String := (s.value? g name).getD ""

/-- The value of an option as a number. -/
def number (g : Grammar) (s : Scan) (name : String) : Except Refusal Nat :=
  match Text.unsigned64? (text g s name) with
  | some n => .ok n
  | none => .error .notUnderstood

/-- The value of an option in seconds. -/
def seconds (g : Grammar) (s : Scan) (name : String) : Except Refusal Duration :=
  Duration.ofSeconds <$> number g s name

/-- What is found among the arguments of a task. -/
def scanTask (g : Grammar) (args : List String) : Except Refusal Scan := do
  let (s, _) ← g.scan (fun _ => false) {} args
  g.accept s
  return s

/-- A command of one word is a line for the shell of the host; several words are quoted for it. -/
def commandOf : List String → Command
  | [line] => .line line
  | argv => .words argv

def execTask (args : List String) : Except Refusal Task := do
  let s ← scanTask execGrammar args
  return .exec (text execGrammar s "host") (commandOf s.operands)
    { check := !s.has "no-check", os := if s.has "windows" then .windows else .linux }

def copyTask (args : List String) : Except Refusal Task := do
  let s ← scanTask copyGrammar args
  match s.operands with
  | [source, target] =>
    return .copy (text copyGrammar s "host") source target
      (if s.has "reverse" then .fromHost else .toHost)
  | _ => throw .notUnderstood

def awaitTask (args : List String) : Except Refusal Task := do
  let s ← scanTask awaitGrammar args
  return .awaitHost (text awaitGrammar s "host") (← seconds awaitGrammar s "timeout")

/-- The task of logging consoles, with the settings that it brings along. -/
def consoleTask (args : List String) : Except Refusal (Task × Settings.Console) := do
  let s ← scanTask consoleGrammar args
  let interval ← seconds consoleGrammar s "interval"
  return (.logConsoles (text consoleGrammar s "host") (s.values "vm"),
    { logDir := text consoleGrammar s "log-dir", interval })

/-- What the names behind `help` ask for: the page of the program or of one of its tasks. Tasks have
no tasks of their own, so that more than one name leads nowhere. -/
def helpOn : List String → Refusal
  | [] => .helpWanted
  | [name] => if taskNames.contains name then .helpWanted else .notUnderstood
  | _ => .notUnderstood

/-- The task of a name. -/
def taskOf (name : String) (args : List String) : Except Refusal (Task × Settings.Console) :=
  match name with
  | "exec" => do return (← execTask args, {})
  | "copy" => do return (← copyTask args, {})
  | "wait-host" => do return (← awaitTask args, {})
  | "console-log" => consoleTask args
  | _ => throw (helpOn args)

/-- The ssh settings that the common options give. -/
def sshOf (s : Scan) : Except Refusal Settings.Ssh := do
  return {
    user := text common s "ssh-user"
    key := s.value? common "ssh-key"
    connectTimeout := ← seconds common s "connect-timeout"
    ignoreHostKeys := !s.has "host-key-checks"
    stripBanner := s.has "strip-banner"
    maxLogLines := ← number common s "max-log-lines" }

/-- Reads a command line, without the name of the program. -/
def ofArguments (args : List String) : Except Refusal Invocation := do
  let (s, rest) ← common.scan taskNames.contains {} args
  match rest with
  | none => throw .taskMissing
  | some (name, rest) =>
    let (task, console) ← (taskOf name rest).mapError (Refusal.within name)
    common.accept s
    let ssh ← sshOf s
    let wait : Settings.Wait := { retryDelay := ← seconds common s "retry-delay" }
    return { settings := { ssh, console, wait }, task }

end Invocation

end Testbed.CommandLine
