import Testbed.Guest
import Testbed.Proofs.Host.Queries
/-!
# Two policies of waiting

A wait on a host takes whatever goes wrong in a round for a host that is not there yet, so that it
ends in one of two ways: a round has met its condition, or the rounds are used up. A wait on a guest
asks for the state of the guest in each round, and a fault of that is the result of the wait.

Main statement: `waiting_policies`.
-/
namespace Testbed

open Program Transport

variable {timeout : Duration} {r : List Executed} {res : Except Fault Unit}

namespace Guest

variable {g : Guest} {state : PowerState}

def asking (g : Guest) : Command :=
  Xe.command "vm-param-get" [("uuid", g.uuid), ("param-name", "power-state")] false

/-- A round in which it is found out whether a guest is in a state. -/
def Found (g : Guest) (state : PowerState) (r : List Executed) (value : Except Fault Bool) : Prop :=
  ∃ text, g.owner.Yields g.asking r text ∧
    value = text.map fun text => decide (PowerState.ofText text = state)

def isIn (g : Guest) (state : PowerState) : Operation Bool := do return (← g.powerState) = state

theorem executes_isIn {value : Except Fault Bool} :
    Executes (g.isIn state).run r value ↔ g.Found state r value := by
  have mapped : g.isIn state =
      (fun text => decide (PowerState.ofText text = state)) <$> g.owner.ssh g.asking := by
    have read : g.isIn state = (fun found => decide (found = state)) <$> g.powerState :=
      bind_pure_comp ..
    rw [read, powerState, Functor.map_map]
    rfl
  rw [mapped, executes_try_map]
  simp only [Host.executes_ssh, Found, and_comm]

theorem executes_awaitState :
    Executes (g.awaitState state timeout).run r res ↔
      Rounds (g.Found state) true (g.owner.tries timeout)
        (.timeout ⟨some s!"Wait for vm {g.uuid} to be {state.name}", true, timeout⟩) r res := by
  have round : Executes (g.isIn state).run = g.Found state :=
    funext₂ fun r value => propext executes_isIn
  have waits : g.awaitState state timeout =
      (g.owner.waiting s!"Wait for vm {g.uuid} to be {state.name}" timeout).awaitFallible
        Fault.timeout (g.isIn state) := rfl
  rw [waits, executes_awaitFallible, round]
  rfl

theorem waited_awaitState :
    (g.awaitState state timeout).run.AsksOnly (I := Transport.interface) Waited :=
  asksOnly_wait (asksOnly_try_bind (asksOnly_try_map Host.waited_ssh) fun _ => trivial)
    (fun _ => nofun) fun _ => nofun

end Guest

/-- **Two policies of waiting.** Any answers make one run of each wait, whatever the settings are,
and there are as many rounds as the timeout has retry delays, one at least.

A wait on a host is over at the first round that finds it answering, or enabled. Nothing that goes
wrong in a round before is seen in the result, and if no round finds it so the wait has timed out.
A wait on a guest is over at the first round that ends in a fault, which is its result, or that
finds the guest in the state. It has timed out if all rounds find other states. -/
theorem waiting_policies (h : Host) (g : Guest) (timeout : Duration) :
    (Determined (h.awaitReachable timeout).run ∧ Determined (h.awaitEnabled timeout).run ∧
      Determined (g.awaitRunning timeout).run ∧ Determined (g.awaitHalted timeout).run) ∧
    ∀ (r : List Executed) (res : Except Fault Unit),
      ((∃ t, Runs (h.awaitReachable timeout).run t res ∧ ran t = r) ↔
        ∃ met, Phase h.Reached true (h.tries timeout) r met ∧
          res = if met then .ok () else .error
            (.timeout ⟨some s!"Wait for host {h.address} to be reachable", true, timeout⟩)) ∧
      ((∃ t, Runs (h.awaitEnabled timeout).run t res ∧ ran t = r) ↔
        ∃ met, Phase h.Ready true (h.tries timeout) r met ∧
          res = if met then .ok () else .error
            (.timeout ⟨some s!"Wait for host {h.address} to be enabled", true, timeout⟩)) ∧
      ((∃ t, Runs (g.awaitRunning timeout).run t res ∧ ran t = r) ↔
        Rounds (g.Found .running) true (g.owner.tries timeout)
          (.timeout ⟨some s!"Wait for vm {g.uuid} to be Running", true, timeout⟩) r res) ∧
      ((∃ t, Runs (g.awaitHalted timeout).run t res ∧ ran t = r) ↔
        Rounds (g.Found .halted) true (g.owner.tries timeout)
          (.timeout ⟨some s!"Wait for vm {g.uuid} to be Halted", true, timeout⟩) r res) := by
  have named (state : PowerState) : s!"Wait for vm {g.uuid} to be {state.name}" =
      s!"Wait for vm {g.uuid}" ++ (" to be " ++ state.name) := String.append_assoc
  refine ⟨⟨determined (waited_await Host.waited_isReachable),
    determined (waited_await Host.waited_isReady), determined Guest.waited_awaitState,
    determined Guest.waited_awaitState⟩, fun r res => ⟨Host.executes_awaitReachable,
    Host.executes_awaitEnabled, ?_, ?_⟩⟩
  · have waits : Executes (g.awaitRunning timeout).run r res ↔ _ := Guest.executes_awaitState
    rwa [named] at waits
  · have waits : Executes (g.awaitHalted timeout).run r res ↔ _ := Guest.executes_awaitState
    rwa [named] at waits

/-- A host is back in the last of three rounds; a guest on it is not asked about a second time. -/
theorem fault_ends_guest_wait_only :
    let h : Host := { address := "host", transport := {} }
    let g : Guest := ⟨"vm", h⟩
    let away : Except IoError Output := .ok ⟨255, []⟩
    (∃ t, Runs (h.awaitReachable (.ofSeconds 5)).run t (.ok ()) ∧
      ran t = [(h.process "true", away), (h.process "true", .error ⟨"no ssh"⟩),
        (h.process "true", .ok ⟨1, []⟩)]) ∧
    ∃ t, Runs (g.awaitRunning (.ofSeconds 5)).run t
        (.error (.command (.unreachable "host" g.asking.toShell 255 ""))) ∧
      ran t = [(h.process g.asking.toShell, away)] := by
  intro h g away
  obtain ⟨-, ends⟩ := waiting_policies h g (.ofSeconds 5)
  have reached (a : Except IoError Output) :
      h.Reached [(h.process "true", a)] (Host.answered a) :=
    ⟨_, _, a, (decides_plain_iff rfl).2 ⟨rfl, rfl, rfl⟩, rfl⟩
  have missed : ∀ s ∈ [[(h.process "true", away)], [(h.process "true", .error ⟨"no ssh"⟩)]],
      h.Reached s !true := by
    intro s mem
    simp only [List.mem_cons, List.not_mem_nil, or_false] at mem
    rcases mem with rfl | rfl
    · exact reached away
    · exact reached (.error ⟨"no ssh"⟩)
  have back : Phase h.Reached true (h.tries (.ofSeconds 5)) _ true :=
    .met _ _ missed (reached (.ok ⟨1, []⟩)) (by decide)
  have asked : g.Found .running [(h.process g.asking.toShell, away)]
      (.error (.command (.unreachable "host" g.asking.toShell 255 ""))) :=
    ⟨_, (Host.yields_plain_iff rfl).2 ⟨away, rfl, rfl⟩, by decide +kernel⟩
  exact ⟨(ends _ _).1.2 ⟨true, back, rfl⟩,
    (ends _ _).2.2.1.2 (.failed [] _ _ nofun asked (by decide))⟩

end Testbed
