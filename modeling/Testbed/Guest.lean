import Testbed.Host
import Testbed.PowerState
import Testbed.Xe.Parameters
/-!
# Guests and their snapshots

A guest belongs to a host, and every command about it goes to that host. Its owner changes in two
cases only: it was started on a given host, or it was migrated. Both operations have the guest with
its new owner as their result, so that an operation that fails leaves the owner as it was.

| here | in the program |
| --- | --- |
| `Guest` and its `owner` | `Vm` and its `host` |
| `parameter`, `parameters`, `setParameter` | `param_get`, `params`, `param_set` |
| `start`, `startOn` | `start` without a host, and with one |
| `awaitState`, `awaitRunning`, `awaitHalted` | `wait_for_state`, `wait_for_running`, `wait_for_halted` |
| `clone`, `diskUuids` | `clone_vm`, `vdi_uuids` |
-/
namespace Testbed

/-- A guest and the host that owns it. -/
structure Guest where
  uuid : String
  owner : Host
  deriving DecidableEq, Repr

/-- A snapshot of a guest, at the host that owned the guest when it was taken. -/
structure Snapshot where
  uuid : String
  owner : Host
  deriving DecidableEq, Repr

namespace Guest

/-- Runs a toolstack command about the guest on its owner. -/
def xe (g : Guest) (action : String) (args : List Xe.Argument) : Operation String :=
  g.owner.xe action (("uuid", g.uuid) :: args)

def parameter (g : Guest) (name : String) : Operation String :=
  g.xe "vm-param-get" [("param-name", name)]

/-- All parameters. -/
def parameters (g : Guest) : Operation (Registry String) :=
  Xe.parameters <$> g.xe "vm-param-list" []

def setParameter (g : Guest) (name value : String) : Operation Unit := do
  let _ ← g.xe "vm-param-set" [(name, value)]

def powerState (g : Guest) : Operation PowerState :=
  PowerState.ofText <$> g.parameter "power-state"

/-- The number of the domain that the guest runs in; a negative number stands for none. -/
def domid (g : Guest) : Operation (Option Nat) := do
  let text ← g.parameter "dom-id"
  match Text.signed64? text with
  | some n => return if 0 ≤ n then some n.toNat else none
  | none => throw (.unexpected s!"dom-id of vm {g.uuid}" text)

def isRunning (g : Guest) : Operation Bool := do
  return (← g.powerState) = .running

/-- Starts the guest where it is. -/
def start (g : Guest) : Operation Unit := do
  .log .info .guest s!"Start vm {g.uuid}"
  let _ ← g.xe "vm-start" []

/-- Starts the guest on a host, which owns it from then on. -/
def startOn (g : Guest) (host : Host) : Operation Guest := do
  .log .info .guest s!"Start vm {g.uuid}"
  let hostUuid ← host.uuid
  let _ ← g.xe "vm-start" [("on", hostUuid)]
  return { g with owner := host }

/-- The argument by which an action does not wait for the guest. -/
def forced (force : Bool) : List Xe.Argument := if force then [("force", "true")] else []

def shutdown (g : Guest) (force : Bool) : Operation Unit := do
  .log .info .guest s!"Shutdown vm {g.uuid}"
  let _ ← g.xe "vm-shutdown" (forced force)

def reboot (g : Guest) (force : Bool) : Operation Unit := do
  .log .info .guest s!"Reboot vm {g.uuid}"
  let _ ← g.xe "vm-reboot" (forced force)

/-- Waits until the guest is in a state. A fault of a query ends the wait. -/
def awaitState (g : Guest) (state : PowerState) (timeout : Duration) : Operation Unit :=
  (g.owner.waiting s!"Wait for vm {g.uuid} to be {state.name}" timeout).awaitFallible .timeout do
    return (← g.powerState) = state

def awaitRunning (g : Guest) (timeout : Duration) : Operation Unit := g.awaitState .running timeout

def awaitHalted (g : Guest) (timeout : Duration) : Operation Unit := g.awaitState .halted timeout

/-- Migrates the running guest to a host, which owns it from then on. -/
def migrate (g : Guest) (target : Host) : Operation Guest := do
  .log .info .guest s!"Migrate vm {g.uuid} to {target.address}"
  let targetUuid ← target.uuid
  let _ ← g.xe "vm-migrate" [("host-uuid", targetUuid), ("live", "true")]
  return { g with owner := target }

def snapshot (g : Guest) (name : String) : Operation Snapshot := do
  .log .info .guest s!"Snapshot vm {g.uuid} as '{name}'"
  let uuid ← .newUuid "snapshot uuid" (← g.xe "vm-snapshot" [("new-name-label", name)])
  return ⟨uuid, g.owner⟩

/-- Makes a copy of the guest. -/
def clone (g : Guest) (name : String) : Operation Guest := do
  .log .info .guest s!"Clone vm {g.uuid} as '{name}'"
  let uuid ← .newUuid "clone uuid" (← g.xe "vm-clone" [("new-name-label", name)])
  return ⟨uuid, g.owner⟩

/-- Removes the guest along with its disks. -/
def destroy (g : Guest) : Operation Unit := do
  .log .info .guest s!"Destroy vm {g.uuid}"
  let _ ← g.xe "vm-uninstall" [("force", "true")]

/-- What the toolstack lists for a drive with no disk in it. -/
def emptyDrive : String := "<not in database>"

/-- The disks of the guest, without its empty drives. -/
def diskUuids (g : Guest) : Operation (List String) :=
  List.filter (· ≠ emptyDrive) <$> g.owner.xeList "vbd-list"
    [("vm-uuid", g.uuid), ("type", "Disk"), ("params", "vdi-uuid")]

end Guest

namespace Snapshot

/-- Puts the guest back into the state of the snapshot. -/
def revert (s : Snapshot) : Operation Unit := do
  .log .info .guest s!"Revert to snapshot {s.uuid}"
  let _ ← s.owner.xe "snapshot-revert" [("snapshot-uuid", s.uuid)]

def destroy (s : Snapshot) : Operation Unit := do
  .log .info .guest s!"Destroy snapshot {s.uuid}"
  let _ ← s.owner.xe "snapshot-uninstall" [("snapshot-uuid", s.uuid), ("force", "true")]

end Snapshot

end Testbed
