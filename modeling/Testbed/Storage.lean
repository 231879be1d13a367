import Testbed.Host
/-!
# Storage and disks

A storage repository holds disks and is plugged into hosts. It is forgotten or destroyed only after
it was unplugged everywhere: the first plug that cannot be pulled ends the operation.

| here | in the program |
| --- | --- |
| `Storage`, `Disk` | `Sr`, `Vdi` |
| `plugUuids`, `plug`, `unplug` | `pbd_uuids`, `plug_pbds`, `unplug_pbds` |
| `isPluggedInto` | `attached_to_host` |
| `createDisk`, `diskUuids` | `create_vdi`, `vdi_uuids` |
| `parameter`, `Disk.virtualSize` | `param_get`, `virtual_size` |
-/
namespace Testbed

/-- A disk of the pool. -/
structure Disk where
  uuid : String
  owner : Host
  deriving DecidableEq, Repr

namespace Disk

def parameter (d : Disk) (name : String) : Operation String :=
  d.owner.xe "vdi-param-get" [("uuid", d.uuid), ("param-name", name)]

def name (d : Disk) : Operation String := d.parameter "name-label"

/-- The size in bytes. -/
def virtualSize (d : Disk) : Operation Nat := do
  let text ← d.parameter "virtual-size"
  match Text.unsigned64? text with
  | some n => return n
  | none => throw (.unexpected s!"virtual-size of vdi {d.uuid}" text)

def destroy (d : Disk) : Operation Unit := do
  .log .info .disk s!"Destroy vdi {d.uuid}"
  let _ ← d.owner.xe "vdi-destroy" [("uuid", d.uuid)]

end Disk

/-- A storage repository, managed through one host. -/
structure Storage where
  uuid : String
  owner : Host
  deriving DecidableEq, Repr

namespace Storage

/-- Creates a repository of a kind, with the device settings that the kind asks for. -/
def create (host : Host) (kind name : String) (device : List Xe.Argument) (shared : Bool) :
    Operation Storage := do
  .log .info .storage s!"Create {kind} sr '{name}' on {host.address}"
  let hostUuid ← host.uuid
  let output ← host.xe "sr-create" <|
    [("host-uuid", hostUuid), ("type", kind), ("name-label", name),
      ("shared", if shared then "true" else "false")] ++
    device.map fun (key, value) => (s!"device-config:{key}", value)
  return ⟨← .newUuid "sr uuid" output, host⟩

def parameter (s : Storage) (name : String) : Operation String :=
  s.owner.xe "sr-param-get" [("uuid", s.uuid), ("param-name", name)]

def isShared (s : Storage) : Operation Bool := do
  return (← s.parameter "shared") = "true"

def scan (s : Storage) : Operation Unit := do
  let _ ← s.owner.xe "sr-scan" [("uuid", s.uuid)]

/-- The plugs of the repository, one for each host that it is plugged into. -/
def plugUuids (s : Storage) : Operation (List String) :=
  s.owner.xeList "pbd-list" [("sr-uuid", s.uuid)]

/-- Runs a toolstack command on each object in turn, up to the first that fails. -/
def forEach (h : Host) (action : String) : List String → Operation Unit
  | [] => return ()
  | uuid :: rest => do
    let _ ← h.xe action [("uuid", uuid)]
    forEach h action rest

def plug (s : Storage) : Operation Unit := do forEach s.owner "pbd-plug" (← s.plugUuids)

def unplug (s : Storage) : Operation Unit := do forEach s.owner "pbd-unplug" (← s.plugUuids)

/-- Whether the repository is plugged into a host at the moment. -/
def isPluggedInto (s : Storage) (host : Host) : Operation Bool := do
  let hostUuid ← host.uuid
  let plugged ← s.owner.xeList "pbd-list"
    [("sr-uuid", s.uuid), ("host-uuid", hostUuid), ("params", "currently-attached")]
  return plugged.contains "true"

/-- Creates a disk of a size in bytes. -/
def createDisk (s : Storage) (name : String) (virtualSize : Nat) : Operation Disk := do
  let output ← s.owner.xe "vdi-create"
    [("sr-uuid", s.uuid), ("name-label", name), ("virtual-size", Text.decimal virtualSize)]
  return ⟨← .newUuid "vdi uuid" output, s.owner⟩

def diskUuids (s : Storage) : Operation (List String) :=
  s.owner.xeList "vdi-list" [("sr-uuid", s.uuid)]

/-- Unplugs the repository and forgets it; what it holds stays. -/
def forget (s : Storage) : Operation Unit := do
  .log .info .storage s!"Forget sr {s.uuid}"
  s.unplug
  let _ ← s.owner.xe "sr-forget" [("uuid", s.uuid)]

/-- Unplugs the repository and destroys what it holds. -/
def destroy (s : Storage) : Operation Unit := do
  .log .info .storage s!"Destroy sr {s.uuid}"
  s.unplug
  let _ ← s.owner.xe "sr-destroy" [("uuid", s.uuid)]

end Storage

end Testbed
