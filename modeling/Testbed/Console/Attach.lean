import Testbed.Console.Monitor
import Testbed.Guest
/-!
# Consoles of guests

How the monitor records guests of a pool: their state is asked of the toolstack, and `xl console`
runs over ssh on the host that owns them. It refuses to attach without a terminal.

| here | in the program |
| --- | --- |
| `View`, `viewOf` | `Entity`, as a `Vm` is one |
| `attach` | `launch` of `XlConsoleLauncher` |
-/
namespace Testbed.Console

/-- A guest as the monitor sees it. -/
structure View where
  uuid : String
  host : String
  powerState : Operation PowerState
  domid : Operation (Option Nat)

/-- What the monitor sees of a guest. -/
def viewOf (g : Guest) : View := ⟨g.uuid, g.owner.address, g.powerState, g.domid⟩

/-- Attaches the console of a domain to the end of a log file. -/
def attach (t : Transport) (host : String) (domid : Nat) (log : String) :
    Transport.Action Process :=
  t.startLogged host (.words ["xl", "console", Text.decimal domid]) { tty := true } log

end Testbed.Console
