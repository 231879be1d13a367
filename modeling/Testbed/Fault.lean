import Testbed.Transport
/-!
# Faults

Why an operation on an object of the pool has no result: a command failed, a wait timed out, or the
toolstack answered something that cannot be read.

| here | in the program |
| --- | --- |
| `Fault` | `RemoteError` |
-/
namespace Testbed

/-- What went wrong. -/
inductive Fault
  | command (failure : Failure)
  | timeout (timeout : Wait.Timeout)
  /-- The output of the toolstack is not what was asked for. -/
  | unexpected (what output : String)
  deriving DecidableEq, Repr

namespace Fault

def message : Fault → String
  | .command failure => failure.message
  | .timeout t => t.message
  | .unexpected what output => s!"unexpected {what}: '{output}'"

/-- Whether a host was not reached. -/
def isUnreachable : Fault → Bool
  | .command failure => failure.isUnreachable
  | _ => false

end Fault

/-- Operations on the pool: programs that run commands and end at the first fault. -/
abbrev Operation (α : Type) := ExceptT Fault (Program Transport.interface) α

instance : MonadLift (ExceptT Failure (Program Transport.interface))
    (ExceptT Fault (Program Transport.interface)) where
  monadLift := ExceptT.adapt Fault.command

namespace Operation

/-- Logs one entry. -/
def log (level : Log.Level) (source : Log.Source) (text : String) : Operation Unit :=
  ExceptT.lift (Transport.log level source text)

/-- The uuid of a new object, which the toolstack has to print. -/
def newUuid (what output : String) : Operation String :=
  if output.isEmpty then throw (.unexpected what output) else return output

/-- Waits until a condition that cannot fail takes the expected value. -/
def await (w : Wait) (condition : Program Transport.interface Bool) : Operation Unit :=
  ExceptT.adapt Fault.timeout (w.await condition)

end Operation

end Testbed
