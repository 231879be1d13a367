import Testbed.Process
import Testbed.Shell.Quote
import Testbed.Ssh
import Testbed.Text.Blank
import Testbed.Text.Elision
import Testbed.Text.Utf8
import Testbed.Wait
/-!
# Running commands

Commands run on hosts through ssh, files are copied with scp, and commands run on this machine.
Every command and its output is logged, the output elided; results and failures carry it whole.

A command that ssh or scp ends with the code 255 did not reach the host: that is a failure of its
own kind, whatever the caller asked for. Any other code but zero is a failure only if the caller
wants it checked.

| here | in the program |
| --- | --- |
| `Transport`, `Command`, `RunOptions` | `Executor`, `RemoteCmd`, `SshOptions` |
| `Result`, `Failure` | `CmdResult`, `ExecError` |
| `runShell`, in which `findBanner` and `withoutBanner` are parts | `run_remote_inner` |
| `runLine`, `run` | `raw_ssh`, `output` |
| `runRemote`, `ssh`, `sshResult` | `run_remote`, `ssh`, `ssh_with_result` |
| `runBackground`, `startLogged`, `start` | `run_remote_background`, `spawn_remote`, `spawn` |
| `runLocal`, `copy` | `run_local`, `copy_file` |
| `classify`, `logResult` | `classify`, `log_result` |
-/
namespace Testbed

/-- The operating system of a host, which decides how commands are put into the background. -/
inductive HostOs
  | linux
  | windows
  deriving DecidableEq, Repr

/-- A command for the shell of a host. -/
inductive Command
  /-- Words, each quoted for the shell. -/
  | words (argv : List String)
  /-- A line that the shell reads as it is. -/
  | line (text : String)
  deriving DecidableEq, Repr

/-- The line that the shell of the host is given. -/
def Command.toShell : Command → String
  | .words argv => Shell.joinWords argv
  | .line text => text

/-- How one remote command is run. -/
structure RunOptions where
  /-- Whether a code other than zero is a failure. -/
  check : Bool := true
  /-- Whether host keys go unchecked; if nothing is said the settings decide. -/
  ignoreHostKeys : Option Bool := none
  os : HostOs := .linux
  /-- Whether the remote side gets a terminal. -/
  tty : Bool := false
  deriving DecidableEq, Repr

/-- How one copy is made. -/
structure CopyOptions where
  check : Bool := true
  ignoreHostKeys : Option Bool := none
  direction : Ssh.Direction := .toHost
  deriving DecidableEq, Repr

/-- A command that came to its end. -/
structure Result where
  /-- The host that it ran on, none for commands of this machine. -/
  host : Option String
  code : Int
  output : List UInt8
  deriving DecidableEq, Repr

namespace Result

def succeeded (r : Result) : Bool := r.code = 0

def isRemote (r : Result) : Bool := r.host.isSome

/-- The output as text. -/
def text (r : Result) : String := Text.decode r.output

/-- The output as text, without the blanks at its ends. -/
def trimmed (r : Result) : String := Text.trim r.text

end Result

/-- Why a command has no result. -/
inductive Failure
  /-- The connection to the host failed; the command may not have run at all. -/
  | unreachable (host command : String) (code : Int) (output : String)
  /-- The command ran and ended with a code other than zero. -/
  | failed (host : Option String) (command : String) (code : Int) (output : String)
  /-- The process could not be started. -/
  | notStarted (command : String) (cause : IoError)
  deriving DecidableEq, Repr

namespace Failure

def message : Failure → String
  | .unreachable host command _ output => s!"ssh to '{host}' failed running '{command}': {output}"
  | .failed _ command code output =>
    s!"'{command}' exited with {Text.signedDecimal code}: {output}"
  | .notStarted command cause => s!"spawn '{command}': {cause.text}"

/-- Whether the host was not reached. -/
def isUnreachable : Failure → Bool
  | .unreachable .. => true
  | _ => false

def code : Failure → Option Int
  | .unreachable _ _ code _ => some code
  | .failed _ _ code _ => some code
  | .notStarted .. => none

/-- The whole output, trimmed. -/
def output : Failure → Option String
  | .unreachable _ _ _ output => some output
  | .failed _ _ _ output => some output
  | .notStarted .. => none

end Failure

/-- Runs commands with the given ssh settings. -/
structure Transport where
  settings : Settings.Ssh := {}
  deriving DecidableEq, Repr

namespace Transport

/-- What running commands needs. -/
inductive Request
  /-- Runs a program to its end. -/
  | run (argv : List String)
  /-- Starts a program and does not wait for it; its output goes to the end of `log` if given. -/
  | start (argv : List String) (log : Option String)
  | sleep (d : Duration)
  | log (entry : Log.Entry)

abbrev Answer : Request → Type
  | .run _ => Except IoError Output
  | .start _ _ => Except IoError Process
  | .sleep _ => Unit
  | .log _ => Unit

def interface : Interface := ⟨Request, Answer⟩

instance : Interface.Embeds Wait.interface interface where
  serve
    | .sleep d => Program.request (I := interface) (.sleep d)
    | .log entry => Program.request (I := interface) (.log entry)

/-- Programs that run commands and end at the first failure. -/
abbrev Action (α : Type) := ExceptT Failure (Program interface) α

/-- Logs one entry. -/
def log (level : Log.Level) (source : Log.Source) (text : String) : Program interface Unit :=
  Program.request (I := interface) (.log ⟨level, source, text⟩)

/-- Runs a program; `command` names it should it not start. -/
def run (argv : List String) (command : String) : Action Output :=
  ExceptT.mk do
    match ← Program.request (I := interface) (.run argv) with
    | .ok output => return .ok output
    | .error cause => return .error (.notStarted command cause)

/-- The program and its arguments, with blanks between them. -/
def display (argv : List String) : String := Text.join " " argv

/-- The output of a failed command, as failures carry it. -/
def failureText (bytes : List UInt8) : String := Text.trim (Text.decode bytes)

/-- The result of a finished command, or the failure that its code means. -/
def classify (host : Option String) (command : String) (out : Output) (check : Bool) :
    Except Failure Result :=
  match host with
  | some address =>
    if out.code = Ssh.connectionFailed then
      .error (.unreachable address command out.code (failureText out.bytes))
    else if check ∧ out.code ≠ 0 then
      .error (.failed host command out.code (failureText out.bytes))
    else .ok ⟨host, out.code, out.bytes⟩
  | none =>
    if check ∧ out.code ≠ 0 then .error (.failed none command out.code (failureText out.bytes))
    else .ok ⟨none, out.code, out.bytes⟩

/-- What the log says about a finished command. -/
def resultText (maxLines : Nat) (host : Option String) (command : String) (out : Output) : String :=
  let address := match host with
    | some address => s!"[{address}] "
    | none => ""
  let code := if out.code = 0 then "" else s!" - got error code: {Text.signedDecimal out.code}"
  let output := Text.elide (Text.trimEnd (Text.decode out.bytes)) maxLines
  s!"{address}{command}{code}\n{output}"

/-- Logs a finished command. -/
def logResult (t : Transport) (host : Option String) (command : String) (out : Output) :
    Action Unit :=
  ExceptT.lift (log .debug .transport (resultText t.settings.maxLogLines host command out))

/-- The output without the banner at its front. -/
def withoutBanner (banner : Option (List UInt8)) (out : Output) : Output :=
  match banner with
  | some banner =>
    if banner.isPrefixOf out.bytes then { out with bytes := out.bytes.drop banner.length } else out
  | none => out

/-- The beginning of an ssh invocation with these options. -/
def sshInvocation (t : Transport) (host : String) (o : RunOptions) : List String :=
  Ssh.invocation t.settings host (o.ignoreHostKeys.getD t.settings.ignoreHostKeys) o.tty

/-- Runs a line on a host; the output is as ssh gives it. -/
def runLine (t : Transport) (host line : String) (o : RunOptions) : Action Output :=
  run (t.sshInvocation host o ++ [line]) line

/-- The command by which a host shows its banner and nothing else. -/
def probe : String := "true"

/-- Finds out the banner of a host if banners are to be stripped. -/
def findBanner (t : Transport) (host : String) (o : RunOptions) : Action (Option (List UInt8)) :=
  if t.settings.stripBanner then do
    let out ← t.runLine host probe o
    if out.code = Ssh.connectionFailed then
      throw (.unreachable host probe out.code (failureText out.bytes))
    return some out.bytes
  else
    return none

/-- Runs a line on a host, takes the banner off its output and classifies the outcome. -/
def runShell (t : Transport) (host line : String) (o : RunOptions) : Action Result := do
  let banner ← t.findBanner host o
  let out := withoutBanner banner (← t.runLine host line o)
  t.logResult (some host) line out
  classify (some host) line out o.check

/-- Runs a command on a host. -/
def runRemote (t : Transport) (host : String) (command : Command) (o : RunOptions) :
    Action Result :=
  t.runShell host command.toShell o

/-- Runs a command on a host and checks its code; the result is its trimmed output. -/
def ssh (t : Transport) (host : String) (command : Command) : Action String :=
  Result.trimmed <$> t.runRemote host command {}

/-- Runs a command on a host; only a failure of the connection or of ssh itself is a failure. -/
def sshResult (t : Transport) (host : String) (command : Command) : Action Result :=
  t.runRemote host command { check := false }

/-- Starts a program for a host and does not wait for it. -/
def start (host : String) (argv : List String) (log? : Option String) : Action Process := do
  ExceptT.lift (log .debug .transport s!"[{host}] spawning: {display argv}")
  ExceptT.mk do
    match ← Program.request (I := interface) (.start argv log?) with
    | .ok p => return .ok p
    | .error cause => return .error (.notStarted (display argv) cause)

/-- Starts a command on a host; what it prints goes to the end of the file `log`. That the handle of
the file is duplicated for the two streams, which the operating system may refuse before anything is
logged, is left out. -/
def startLogged (t : Transport) (host : String) (command : Command) (o : RunOptions)
    (log : String) : Action Process :=
  start host (t.sshInvocation host o ++ [command.toShell]) (some log)

/-- A command left running. -/
inductive Background
  /-- The command was detached on the host, and ssh has returned. -/
  | detached (result : Result)
  /-- The ssh process that the command still hangs on. -/
  | attached (process : Process)
  deriving DecidableEq, Repr

/-- The line that detaches a command on a host. The command is one word of it, so that a compound
command is detached as a whole and the redirections stay outside. -/
def detachedLine (line : String) : String :=
  s!"nohup sh -c {Shell.quote line} > /dev/null 2>&1 < /dev/null &"

/-- Leaves a command running on a host. On Linux it is detached and outlives the connection; on
Windows the ssh process is kept. -/
def runBackground (t : Transport) (host : String) (command : Command) (o : RunOptions) :
    Action Background :=
  match o.os with
  | .linux => Background.detached <$> t.runShell host (detachedLine command.toShell) o
  | .windows =>
    Background.attached <$> start host (t.sshInvocation host o ++ [command.toShell]) none

/-- Runs a program on this machine. -/
def runLocal (t : Transport) (argv : List String) (check : Bool) : Action Result :=
  let command := display argv
  if argv.isEmpty then throw (.notStarted command ⟨"empty command"⟩)
  else do
    let out ← run argv command
    t.logResult none command out
    classify none command out check

/-- Copies a file, or a directory with all below it, to or from a host. -/
def copy (t : Transport) (host source target : String) (o : CopyOptions) : Action Result := do
  let argv := Ssh.copyInvocation t.settings host source target
    (o.ignoreHostKeys.getD t.settings.ignoreHostKeys) o.direction
  let out ← run argv (display argv)
  t.logResult (some host) (display argv) out
  classify (some host) (display argv) out o.check

end Transport

end Testbed
