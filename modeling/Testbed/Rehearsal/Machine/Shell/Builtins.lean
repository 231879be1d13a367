import Testbed.Rehearsal.Machine.Shell.Builtin.Directories
import Testbed.Rehearsal.Machine.Shell.Builtin.Flow
import Testbed.Rehearsal.Machine.Shell.Builtin.Input
import Testbed.Rehearsal.Machine.Shell.Builtin.Names
import Testbed.Rehearsal.Machine.Shell.Builtin.Output
import Testbed.Rehearsal.Machine.Shell.Builtin.Signals
import Testbed.Rehearsal.Machine.Shell.Builtin.Variables
/-!
# What a shell does by itself

The commands that a shell runs without another program: those that change the shell, and some that
are used so often that they are at hand. `builtin?` knows them by their names.
-/
namespace Testbed.Rehearsal.Machine.Shell

open Sh

/-- The commands of the shell by their names. -/
def builtin? : String → Option Builtin
  | "." => some dotCommand
  | ":" => some fun _ _ _ => return 0
  | "break" => some (leaveLoops .break_)
  | "continue" => some (leaveLoops .continue_)
  | "eval" => some evalCommand
  | "exec" => some execCommand
  | "exit" => some exitCommand
  | "export" => some (marking "export" (·.exported) ({ · with exported := true }))
  | "readonly" => some (marking "readonly" (·.readOnly) ({ · with readOnly := true }))
  | "return" => some returnCommand
  | "set" => some setCommand
  | "shift" => some shiftCommand
  | "times" => some timesCommand
  | "trap" => some trapCommand
  | "unset" => some unsetCommand
  | "[" => some bracketCommand
  | "alias" => some aliasCommand
  | "unalias" => some unaliasCommand
  | "bg" => some moveCommand
  | "fg" => some moveCommand
  | "cd" => some cdCommand
  | "chdir" => some cdCommand
  | "echo" => some echoCommand
  | "false" => some fun _ _ _ => return 1
  | "getopts" => some getoptsCommand
  | "hash" => some hashCommand
  | "jobs" => some jobsCommand
  | "kill" => some killCommand
  | "local" => some localCommand
  | "printf" => some printfCommand
  | "pwd" => some pwdCommand
  | "read" => some readCommand
  | "test" => some testCommand
  | "true" => some fun _ _ _ => return 0
  | "type" => some typeCommand
  | "ulimit" => some ulimitCommand
  | "umask" => some umaskCommand
  | "wait" => some waitCommand
  | _ => none

end Testbed.Rehearsal.Machine.Shell
