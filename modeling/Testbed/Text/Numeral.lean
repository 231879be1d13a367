/-!
# Decimal numerals

`decimal` writes a natural number. `natural?` reads an optional `+` and digits, `integer?` an
optional sign and digits; both refuse a value outside the machine range that they are given.
Only the ASCII digits count, and no blank or separator is allowed.
-/
namespace Testbed.Text

/-- The largest unsigned number of 64 bits. -/
def maxUnsigned64 : Nat := UInt64.size - 1

/-- The digit of a number below ten. -/
def digitChar (n : Nat) : Char := Char.ofNat ('0'.toNat + n)

/-- The decimal digits of a number, the most significant first. -/
def decimalDigits (n : Nat) : List Char :=
  if n < 10 then [digitChar n] else decimalDigits (n / 10) ++ [digitChar (n % 10)]

/-- A number in decimal. -/
def decimal (n : Nat) : String := String.ofList (decimalDigits n)

/-- A number with a sign, which only negative ones show. -/
def signedDecimal (n : Int) : String :=
  if n < 0 then "-" ++ decimal n.natAbs else decimal n.natAbs

/-- `n` in at least `width` digits, filled up with zeros. -/
def padded (width n : Nat) : String :=
  let ds := decimalDigits n
  String.ofList (List.replicate (width - ds.length) '0' ++ ds)

/-- The value of an ASCII digit. -/
def digitValue? (c : Char) : Option Nat :=
  if '0' ≤ c ∧ c ≤ '9' then some (c.toNat - '0'.toNat) else none

/-- The value of a row of digits that follow digits of value `acc`. -/
def digitsFrom? (acc : Nat) : List Char → Option Nat
  | [] => some acc
  | c :: rest => (digitValue? c).bind fun d => digitsFrom? (acc * 10 + d) rest

/-- The value of one or more digits. -/
def digits? (s : List Char) : Option Nat :=
  if s.isEmpty then none else digitsFrom? 0 s

/-- An optional `+` and digits, of a value up to `limit`. -/
def natural? (limit : Nat) (s : String) : Option Nat :=
  let value := match s.toList with
    | '+' :: rest => digits? rest
    | cs => digits? cs
  value.filter (· ≤ limit)

/-- An optional sign and digits, of a value from `low` to `high`. -/
def integer? (low high : Int) (s : String) : Option Int :=
  let value : Option Int := match s.toList with
    | '+' :: rest => (digits? rest).map Int.ofNat
    | '-' :: rest => (digits? rest).map fun n => -(n : Int)
    | cs => (digits? cs).map Int.ofNat
  value.filter fun n => low ≤ n && n ≤ high

/-- Reads an unsigned number of 64 bits. -/
def unsigned64? : String → Option Nat := natural? maxUnsigned64

/-- Reads a signed number of 64 bits. -/
def signed64? : String → Option Int := integer? (-(Nat.pow 2 63)) (Nat.pow 2 63 - 1)

end Testbed.Text
