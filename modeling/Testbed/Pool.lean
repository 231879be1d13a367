import Testbed.Host
/-!
# Pools and their networks

A pool is managed through its master. Its members are reached and waited for as the master is.

| here | in the program |
| --- | --- |
| `Pool.otherHost?` | `first_host_that_isnt` |
| `Network.parameter`, `Network.interfaceUuids` | `param_get`, `pif_uuids` |
-/
namespace Testbed

/-- A pool of hosts. -/
structure Pool where
  master : Host
  deriving DecidableEq, Repr

namespace Pool

def uuid (p : Pool) : Operation String := do
  Host.theOnly "pool uuid" (← p.master.xeList "pool-list" [])

/-- All members, the master among them. -/
def hosts (p : Pool) : Operation (List Host) :=
  List.map p.master.withAddress <$> p.master.xeList "host-list" [("params", "address")]

/-- The first member that is not the given host. -/
def otherHost? (p : Pool) (host : Host) : Operation (Option Host) :=
  List.find? (fun h => !h.sameAs host) <$> p.hosts

end Pool

/-- A network of the pool. -/
structure Network where
  uuid : String
  owner : Host
  deriving DecidableEq, Repr

namespace Network

/-- Creates a network that no host leads out of. -/
def create (host : Host) (name : String) : Operation Network := do
  .log .info .network s!"Create network '{name}'"
  let output ← host.xe "network-create" [("name-label", name)]
  return ⟨← .newUuid "network uuid" output, host⟩

def parameter (n : Network) (name : String) : Operation String :=
  n.owner.xe "network-param-get" [("uuid", n.uuid), ("param-name", name)]

/-- The bridge that the network has on the hosts. -/
def bridge (n : Network) : Operation String := n.parameter "bridge"

def interfaceUuids (n : Network) : Operation (List String) :=
  n.owner.xeList "pif-list" [("network-uuid", n.uuid)]

def destroy (n : Network) : Operation Unit := do
  .log .info .network s!"Destroy network {n.uuid}"
  let _ ← n.owner.xe "network-destroy" [("uuid", n.uuid)]

end Network

end Testbed
