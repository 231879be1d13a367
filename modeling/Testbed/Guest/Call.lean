import Testbed.Guest
/-!
# Calls on a guest that is held

Whoever works with a guest holds on to it and makes one call after another. A call that moves the
guest leaves its holder with the guest as its new owner has it; a call that ends in a fault leaves
the holder with the guest as it was.
-/
namespace Testbed.Guest

/-- Programs on a guest that is held. What has become of the guest stays when a fault ends them. -/
abbrev Handling (α : Type) := ExceptT Fault (StateT Guest (Program Transport.interface)) α

/-- An operation that leaves the guest where it is. -/
def inPlace {α : Type} (operation : Guest → Operation α) : Handling α :=
  ExceptT.mk fun g => do return (← (operation g).run, g)

/-- An operation that moves the guest. -/
def moving (operation : Guest → Operation Guest) : Handling Unit :=
  ExceptT.mk fun g => do
    match ← (operation g).run with
    | .ok moved => return (.ok (), moved)
    | .error fault => return (.error fault, g)

/-- What can be asked of a guest. -/
inductive Call
  | parameter (name : String)
  | parameters
  | setParameter (name value : String)
  | powerState
  | domid
  | isRunning
  /-- Starts the guest, on the given host if there is one. -/
  | start (on : Option Host)
  | shutdown (force : Bool)
  | reboot (force : Bool)
  | awaitRunning (timeout : Duration)
  | awaitHalted (timeout : Duration)
  | migrate (target : Host)
  | snapshot (name : String)
  | clone (name : String)
  | destroy
  | diskUuids
  deriving DecidableEq, Repr

namespace Call

abbrev Answer : Call → Type
  | .parameter _ => String
  | .parameters => Registry String
  | .powerState => PowerState
  | .domid => Option Nat
  | .isRunning => Bool
  | .snapshot _ => Snapshot
  | .clone _ => Guest
  | .diskUuids => List String
  | .setParameter _ _ | .start _ | .shutdown _ | .reboot _ | .awaitRunning _ | .awaitHalted _
  | .migrate _ | .destroy => Unit

/-- Makes a call. -/
def perform : (c : Call) → Handling c.Answer
  | .parameter name => inPlace (·.parameter name)
  | .parameters => inPlace (·.parameters)
  | .setParameter name value => inPlace (·.setParameter name value)
  | .powerState => inPlace (·.powerState)
  | .domid => inPlace (·.domid)
  | .isRunning => inPlace (·.isRunning)
  | .start none => inPlace (·.start)
  | .start (some host) => moving (·.startOn host)
  | .shutdown force => inPlace (·.shutdown force)
  | .reboot force => inPlace (·.reboot force)
  | .awaitRunning timeout => inPlace (·.awaitRunning timeout)
  | .awaitHalted timeout => inPlace (·.awaitHalted timeout)
  | .migrate target => moving (·.migrate target)
  | .snapshot name => inPlace (·.snapshot name)
  | .clone name => inPlace (·.clone name)
  | .destroy => inPlace (·.destroy)
  | .diskUuids => inPlace (·.diskUuids)

end Call

end Testbed.Guest
