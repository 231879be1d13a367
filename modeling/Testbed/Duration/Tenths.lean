import Testbed.Duration
/-!
# Seconds to one decimal

A duration is shown in seconds with one decimal by way of a binary floating point number of 53
significant bits: the whole seconds and the fraction are each rounded to such a number, then their
sum is, and the exact value of that sum is rounded to tenths. Every rounding goes to the nearest
value and a tie to the even one.
-/
namespace Testbed.Duration

/-- The number nearest to `num / den`, of two the even one. -/
def roundDiv (num den : Nat) : Nat :=
  let q := num / den
  let r := num % den
  if 2 * r < den then q
  else if den < 2 * r then q + 1
  else if q % 2 = 0 then q else q + 1

/-- A number `units / 2 ^ shift`. -/
structure Dyadic where
  units : Nat
  shift : Nat
  deriving DecidableEq, Repr

/-- The places after the binary point that leave 53 significant bits of `num / den`, which has to
be above `2 ^ -64`; a number with more bits before the point keeps none after it. -/
def placesFor (num den : Nat) : Nat :=
  let scaled := num * Nat.pow 2 64 / den
  64 + 53 - (Nat.log2 scaled + 1)

/-- `num / den` rounded to 53 significant bits. -/
def toDyadic (num den : Nat) : Dyadic :=
  if num = 0 then ⟨0, 0⟩
  else
    let bits := Nat.log2 (num / den) + 1
    if 53 < bits then
      let unit := Nat.pow 2 (bits - 53)
      ⟨roundDiv num (den * unit) * unit, 0⟩
    else
      let places := placesFor num den
      ⟨roundDiv (num * Nat.pow 2 places) den, places⟩

/-- The duration in tenths of a second, by way of 53 significant bits. -/
def tenths (d : Duration) : Nat :=
  let whole := toDyadic d.seconds 1
  let fraction := toDyadic d.subsecond second
  let places := max whole.shift fraction.shift
  let sum := toDyadic
    (whole.units * Nat.pow 2 (places - whole.shift) +
      fraction.units * Nat.pow 2 (places - fraction.shift))
    (Nat.pow 2 places)
  roundDiv (sum.units * 10) (Nat.pow 2 sum.shift)

/-- The duration in seconds with one decimal. -/
def tenthsText (d : Duration) : String :=
  Text.decimal (d.tenths / 10) ++ "." ++ Text.decimal (d.tenths % 10)

end Testbed.Duration
