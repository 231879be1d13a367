import Testbed.Text.Numeral
/-!
# Durations

Lengths of time in whole nanoseconds. Subtraction stops at zero, so what is left of a budget is
never negative. `Duration.text` writes a duration in the largest unit that it fills, with a
fraction only if there is one: `1.5s`, `10ms`, `2.5µs`, `0ns`.
-/
namespace Testbed

/-- A length of time. -/
structure Duration where
  nanos : Nat
  deriving DecidableEq, Repr, Inhabited

namespace Duration

/-- Nanoseconds in a second. -/
def second : Nat := 1000000000

/-- Nanoseconds in a millisecond. -/
def millisecond : Nat := 1000000

def ofSeconds (n : Nat) : Duration := ⟨n * second⟩

def ofMillis (n : Nat) : Duration := ⟨n * millisecond⟩

def zero : Duration := ⟨0⟩

/-- The whole seconds. -/
def seconds (d : Duration) : Nat := d.nanos / second

/-- The nanoseconds beyond the whole seconds. -/
def subsecond (d : Duration) : Nat := d.nanos % second

/-- What is left of `d` after `e`, nothing if `e` is the longer one. -/
def less (d e : Duration) : Duration := ⟨d.nanos - e.nanos⟩

/-- The longer of two durations. -/
def longer (d e : Duration) : Duration := ⟨max d.nanos e.nanos⟩

/-- The digits of a fraction, without the zeros at its end. -/
def fractionDigits (places n : Nat) : List Char :=
  (((Text.padded places n).toList).reverse.dropWhile (· = '0')).reverse

/-- A number of units, of which `places` digits stand after the point. -/
def inUnit (nanos places : Nat) (unit : String) : String :=
  let fraction := fractionDigits places (nanos % Nat.pow 10 places)
  let whole := Text.decimal (nanos / Nat.pow 10 places)
  if fraction.isEmpty then whole ++ unit else whole ++ "." ++ String.ofList fraction ++ unit

/-- The duration in the largest of the units s, ms, µs and ns that it fills. -/
def text (d : Duration) : String :=
  if second ≤ d.nanos then inUnit d.nanos 9 "s"
  else if millisecond ≤ d.nanos then inUnit d.nanos 6 "ms"
  else if 1000 ≤ d.nanos then inUnit d.nanos 3 "µs"
  else inUnit d.nanos 0 "ns"

end Duration

end Testbed
