/-!
# Log entries

An entry has a level, the part of the library that it comes from, and a text of one or more lines.
Whether an entry is shown is decided by its readers.
-/
namespace Testbed.Log

/-- How much an entry matters, from most to least. -/
inductive Level
  | error
  | warn
  | info
  | debug
  | trace
  deriving DecidableEq, Repr

/-- The parts of the library that log. -/
inductive Source
  | commandLine
  | transport
  | process
  | wait
  | host
  | guest
  | storage
  | disk
  | network
  | console
  deriving DecidableEq, Repr

/-- One message. -/
structure Entry where
  level : Level
  source : Source
  text : String
  deriving DecidableEq, Repr

namespace Level

/-- The place of a level: a higher number matters less. -/
def rank : Level → Nat
  | .error => 1
  | .warn => 2
  | .info => 3
  | .debug => 4
  | .trace => 5

def name : Level → String
  | .error => "ERROR"
  | .warn => "WARN"
  | .info => "INFO"
  | .debug => "DEBUG"
  | .trace => "TRACE"

end Level

end Testbed.Log
