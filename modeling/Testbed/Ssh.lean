import Testbed.Settings
/-!
# Invocations of ssh and scp

The arguments that the settings give both programs, and the whole invocations. A command to run on
the host is appended to an ssh invocation as one last argument.

| here | in the program |
| --- | --- |
| `options` | `common_opts` |
| `invocation`, `copyInvocation` | `build_ssh_cmd`, `build_scp_cmd` |
| `ignoringHostKeys`, `connectionFailed` | `NO_HOST_KEY_CHECKS`, `SSH_TRANSPORT_ERROR` |
-/
namespace Testbed.Ssh

/-- The exit code by which ssh and scp tell that the connection itself failed. -/
def connectionFailed : Int := 255

/-- Options that make the programs forget about host keys. Hosts under test are installed afresh
with the same addresses all the time. -/
def ignoringHostKeys : List String :=
  ["-o", "StrictHostKeyChecking=no", "-o", "UserKnownHostsFile=/dev/null", "-o", "LogLevel=ERROR"]

/-- The options of both programs. The connect timeout is given in whole seconds. -/
def options (s : Settings.Ssh) (ignoreHostKeys : Bool) : List String :=
  ["-o", "BatchMode=yes", "-o", s!"ConnectTimeout={Text.decimal s.connectTimeout.seconds}"] ++
    (if ignoreHostKeys then ignoringHostKeys else []) ++
    match s.key with
    | some key => ["-o", "IdentitiesOnly=yes", "-i", key]
    | none => []

/-- The user at the host. -/
def login (s : Settings.Ssh) (host : String) : String := s!"{s.user}@{host}"

/-- `ssh` to a host; with `tty` the remote side gets a terminal. -/
def invocation (s : Settings.Ssh) (host : String) (ignoreHostKeys tty : Bool) : List String :=
  "ssh" :: options s ignoreHostKeys ++ (if tty then ["-tt"] else []) ++ [login s host]

/-- The way of a copy. -/
inductive Direction
  | toHost
  | fromHost
  deriving DecidableEq, Repr

/-- `scp` of a path, with all below it, to or from a host. -/
def copyInvocation (s : Settings.Ssh) (host source target : String) (ignoreHostKeys : Bool)
    (direction : Direction) : List String :=
  let remote (path : String) := s!"{login s host}:{path}"
  "scp" :: options s ignoreHostKeys ++ "-r" ::
    match direction with
    | .toHost => [source, remote target]
    | .fromHost => [remote source, target]

end Testbed.Ssh
