import Testbed.Transport
/-!
# Toolstack commands

The toolstack of a host is driven by its `xe` program: an action, arguments of the form
`key=value`, and `--minimal` for output that is a bare list.

| here | in the program |
| --- | --- |
| `words` | `xe_argv` |
-/
namespace Testbed.Xe

/-- A key and its value. -/
abbrev Argument := String × String

/-- An argument as one word. -/
def Argument.word (a : Argument) : String := s!"{a.1}={a.2}"

/-- The words of an `xe` command. -/
def words (action : String) (args : List Argument) (minimal : Bool) : List String :=
  "xe" :: action :: args.map Argument.word ++ if minimal then ["--minimal"] else []

/-- The command for the shell of a host. -/
def command (action : String) (args : List Argument) (minimal : Bool) : Command :=
  .words (words action args minimal)

end Testbed.Xe
