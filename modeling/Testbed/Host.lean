import Testbed.Fault
import Testbed.Xe.Command
import Testbed.Xe.Listing
/-!
# Hosts

A host of the pool, named by its address. Its own commands and those of every object that it owns
go over ssh to that address. Waits on a host have two policies on what goes wrong while they try:
a host that does not answer, or whose toolstack is not ready yet, is simply not there yet.

| here | in the program |
| --- | --- |
| `ssh`, `sshResult`, `xe`, `xeList` | `ssh`, `ssh_with_result`, `xe`, `xe_minimal` |
| `parameter`, `isEnabled`, `isReachable` | `param_get`, `is_enabled`, `is_reachable` |
| `awaitReachable`, `awaitEnabled` | `wait_until_reachable`, `wait_until_enabled` |
| `reboot`, of which `requestReboot` and `awaitDown` are steps | `reboot` |
| `guestUuids`, `fileExists`, `copyTo`, `copyFrom` | `vm_uuids`, `file_exists`, `scp_to`, `scp_from` |
| `withAddress` | `sibling` |
-/
namespace Testbed

/-- A host under test. -/
structure Host where
  address : String
  transport : Transport
  /-- How long conditions on the host and its objects are waited for. -/
  wait : Settings.Wait := {}
  deriving DecidableEq, Repr

namespace Host

/-- Hosts of one address are the same host. -/
def sameAs (h other : Host) : Bool := h.address = other.address

/-- The host at another address, reached and waited for in the same way. -/
def withAddress (h : Host) (address : String) : Host := { h with address }

/-- Runs a command and checks its code; the result is its trimmed output. -/
def ssh (h : Host) (command : Command) : Operation String := h.transport.ssh h.address command

/-- Runs a command; only failing to reach the host is a fault. -/
def sshResult (h : Host) (command : Command) : Operation Result :=
  h.transport.sshResult h.address command

/-- Runs a toolstack command; the result is its trimmed output. -/
def xe (h : Host) (action : String) (args : List Xe.Argument) : Operation String :=
  h.ssh (Xe.command action args false)

/-- Runs a toolstack command in its minimal form; the result is the items listed. -/
def xeList (h : Host) (action : String) (args : List Xe.Argument) : Operation (List String) :=
  Xe.listing <$> h.ssh (Xe.command action args true)

/-- The one item of a listing. -/
def theOnly (what : String) : List String → Operation String
  | [uuid] => return uuid
  | uuids => throw (.unexpected what (Text.join "," uuids))

/-- The uuid of the host, found by its address. -/
def uuid (h : Host) : Operation String := do
  theOnly s!"uuid of host {h.address}" (← h.xeList "host-list" [("address", h.address)])

def parameter (h : Host) (name : String) : Operation String := do
  let uuid ← h.uuid
  h.xe "host-param-get" [("uuid", uuid), ("param-name", name)]

def isEnabled (h : Host) : Operation Bool := do
  return (← h.parameter "enabled") = "true"

/-- Whether the host answers over ssh at all. -/
def isReachable (h : Host) : Program Transport.interface Bool := do
  match ← (h.transport.sshResult h.address (.line "true")).run with
  | .ok _ => return true
  | .error failure =>
    Transport.log .debug .host s!"host {h.address} unreachable: {failure.message}"
    return false

/-- Whether the toolstack of the host answers and reports it enabled. -/
def isReady (h : Host) : Program Transport.interface Bool := do
  match ← h.isEnabled.run with
  | .ok enabled => return enabled
  | .error fault =>
    Transport.log .debug .host s!"host {h.address} not ready: {fault.message}"
    return false

/-- A wait on this host. -/
def waiting (h : Host) (message : String) (timeout : Duration) : Wait :=
  { Wait.ofSettings h.wait with message := some message, timeout }

def awaitReachable (h : Host) (timeout : Duration) : Operation Unit :=
  .await (h.waiting s!"Wait for host {h.address} to be reachable" timeout) h.isReachable

def awaitEnabled (h : Host) (timeout : Duration) : Operation Unit :=
  .await (h.waiting s!"Wait for host {h.address} to be enabled" timeout) h.isReady

/-- Waits until the host does not answer any more. -/
def awaitDown (h : Host) : Operation Unit :=
  .await (h.waiting s!"Wait for host {h.address} to go down" h.wait.timeout).invert h.isReachable

/-- Asks the host to reboot. The connection may break before ssh returns. -/
def requestReboot (h : Host) : Operation Unit :=
  ExceptT.mk do
    match ← (h.transport.ssh h.address (.line "reboot")).run with
    | .ok _ => return .ok ()
    | .error failure =>
      return if failure.isUnreachable then .ok () else .error (.command failure)

/-- Reboots the host and waits until it is back and enabled. -/
def reboot (h : Host) : Operation Unit := do
  .log .info .host s!"Reboot host {h.address}"
  h.requestReboot
  h.awaitDown
  h.awaitReachable h.wait.timeout
  h.awaitEnabled h.wait.timeout

/-- The guests on the host, without its control domain. -/
def guestUuids (h : Host) (runningOnly : Bool) : Operation (List String) := do
  let uuid ← h.uuid
  h.xeList "vm-list" <| [("resident-on", uuid), ("is-control-domain", "false")] ++
    if runningOnly then [("power-state", "running")] else []

def fileExists (h : Host) (path : String) : Operation Bool := do
  return (← h.sshResult (.words ["test", "-e", path])).succeeded

/-- Copies a file of this machine to the host. -/
def copyTo (h : Host) (source target : String) : Operation Unit := do
  let _ ← (h.transport.copy h.address source target {} : Transport.Action Result)

/-- Copies a file of the host to this machine. -/
def copyFrom (h : Host) (source target : String) : Operation Unit := do
  let _ ← (h.transport.copy h.address source target { direction := .fromHost } :
    Transport.Action Result)

end Host

end Testbed
