import Testbed.CommandLine.LogFilter
import Testbed.Fault
import Testbed.Settings
import Testbed.Text.Lines
/-!
# What a run reports

Log lines, and the report of a run that failed: what was being done, and what led to the failure,
cause after cause. Further lines of a log entry or a cause are indented, so that every line that
stands at the margin begins something new.
-/
namespace Testbed.CommandLine

/-- A text whose further lines are indented. -/
def hanging (indent : String) (text : String) : String :=
  String.ofList (Text.joinBy ('\n' :: indent.toList) (Text.cutAt '\n' text.toList))

/-- A text filled up with blanks to a width. -/
def filledUp (width : Nat) (text : String) : String :=
  String.ofList (text.toList ++ List.replicate (width - text.length) ' ')

/-- A log entry as it is shown. -/
def logLine (time : String) (e : Log.Entry) : String :=
  let level := filledUp 5 e.level.name
  let text := hanging "    " e.text
  s!"[{time} {level} {targetOf e.source}] {text}"

/-- A failure, with what led to it. -/
structure Complaint where
  message : String
  /-- The causes, each of the one before it. -/
  causes : List String := []
  deriving DecidableEq, Repr

namespace Complaint

/-- What a failed command is down to: its message, and why it did not start if it did not. -/
def causesOf : Failure → List String
  | .notStarted command cause => [(Failure.notStarted command cause).message, cause.text]
  | failure => [failure.message]

/-- The causes of a fault. -/
def causesOfFault : Fault → List String
  | .command failure => causesOf failure
  | fault => [fault.message]

def ofFault (fault : Fault) : Complaint :=
  match causesOfFault fault with
  | [] => ⟨"", []⟩
  | message :: causes => ⟨message, causes⟩

def ofDefect (defect : Settings.Defect) : Complaint := ⟨"invalid config", [defect.message]⟩

/-- Several causes, numbered from `n` on. -/
def numbered (n : Nat) : List String → List String
  | [] => []
  | cause :: rest =>
    let text := hanging "       " cause
    s!"    {Text.decimal n}: {text}" :: numbered (n + 1) rest

/-- The report on the failure. A single cause goes without a number. -/
def report (c : Complaint) : String :=
  let causes := match c.causes with
    | [] => []
    | [cause] => ["", "Caused by:", "    " ++ hanging "    " cause]
    | causes => "" :: "Caused by:" :: numbered 0 causes
  Text.join "\n" (s!"Error: {c.message}" :: causes)

end Complaint

/-- How the program is used. -/
def usagePage : String := Text.join "\n"
  ["poolcheck 0.1.0",
   "Drive hosts of a pool under test over ssh.",
   "",
   "USAGE:",
   "    poolcheck [FLAGS] [OPTIONS] <SUBCOMMAND>",
   "",
   "FLAGS:",
   "    -h, --help               Prints help information",
   "        --host-key-checks    Verify host keys of hosts under test",
   "        --strip-banner       Strip the login banner some hosts print on every command",
   "    -V, --version            Prints version information",
   "",
   "OPTIONS:",
   "        --connect-timeout <connect-timeout>    Ssh connect timeout in seconds [default: 10]",
   "        --max-log-lines <max-log-lines>        Max number of output lines in debug logs " ++
     "[default: 20]",
   "        --retry-delay <retry-delay>            Delay in seconds between two checks when " ++
     "waiting for something [default:",
   "                                               2]",
   "    -s, --ssh-key <ssh-key>                    Path to ssh secret key, ssh's default " ++
     "identities are used if not set",
   "    -u, --ssh-user <ssh-user>                  Username to login hosts under test " ++
     "[default: root]",
   "",
   "SUBCOMMANDS:",
   "    console-log    Log serial consoles of guests until interrupted",
   "    copy           Copy files to a host, or from it with --reverse",
   "    exec           Run a command on a host and exit with its return code",
   "    help           Prints this message or the help of the given subcommand(s)",
   "    wait-host      Wait until a host answers over ssh"]

/-- What is printed by `--version`. A task goes by the name of the program and its own. -/
def versionText (task : Option String) : String :=
  let name := Text.join "-" ("poolcheck" :: task.toList)
  s!"{name} 0.1.0"

end Testbed.CommandLine
