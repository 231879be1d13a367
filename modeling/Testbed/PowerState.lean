import Testbed.Text.Blank
/-!
# Power states

The coarse state of a guest as its host reports it. A state from which a guest does not come back
by itself is terminal; so is any state that is not known.
-/
namespace Testbed

inductive PowerState
  | running
  | halted
  | suspended
  | paused
  | unknown
  deriving DecidableEq, Repr

namespace PowerState

/-- Whether the guest stays as it is until someone starts it. -/
def isTerminal : PowerState → Bool
  | .running | .suspended | .paused => false
  | .halted | .unknown => true

/-- Reads the word of the toolstack for a state. -/
def ofText (s : String) : PowerState :=
  match Text.trim s with
  | "running" => .running
  | "halted" => .halted
  | "suspended" => .suspended
  | "paused" => .paused
  | _ => .unknown

def name : PowerState → String
  | .running => "Running"
  | .halted => "Halted"
  | .suspended => "Suspended"
  | .paused => "Paused"
  | .unknown => "Unknown"

end PowerState

end Testbed
