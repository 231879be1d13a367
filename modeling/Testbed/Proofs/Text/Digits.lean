import Mathlib.Data.Nat.Notation
import Mathlib.Data.Int.Notation
import Testbed.Text.Numeral
/-!
# Digits and their value

A numeral is a row of ASCII digits, most significant first and with any zeros at its front, behind
a sign that may be missing. `Unsigned` and `Signed` say which texts are numerals of which number.

Main statements: `natural?_eq_some_iff` and `integer?_eq_some_iff`, a number is read from exactly
those of its numerals that are in range; `digits_repr`, what is written is a numeral.
-/
namespace Testbed.Text

/-- One digit at least and nothing but digits, of this value. -/
structure Digits (ds : List Char) (n : ℕ) : Prop where
  nonempty : ds ≠ []
  ascii : ∀ c ∈ ds, c.isDigit
  value : n = Nat.ofDigitChars 10 ds 0

/-- The numerals of a natural number. -/
inductive Unsigned : List Char → ℕ → Prop
  | bare {ds : List Char} {n : ℕ} : Digits ds n → Unsigned ds n
  | plus {ds : List Char} {n : ℕ} : Digits ds n → Unsigned ('+' :: ds) n

/-- The numerals of an integer. -/
inductive Signed : List Char → ℤ → Prop
  | bare {ds : List Char} {n : ℕ} : Digits ds n → Signed ds n
  | plus {ds : List Char} {n : ℕ} : Digits ds n → Signed ('+' :: ds) n
  | minus {ds : List Char} {n : ℕ} : Digits ds n → Signed ('-' :: ds) (-n)

variable {ds : List Char} {n : ℕ}

/-! ## Rows of digits -/

theorem isDigit_iff {c : Char} : c.isDigit ↔ '0' ≤ c ∧ c ≤ '9' := by
  rw [Char.isDigit_iff_toNat, Char.le_def, Char.le_def, UInt32.le_iff_toNat_le,
    UInt32.le_iff_toNat_le]
  rfl

theorem digitValue?_eq (c : Char) :
    digitValue? c = if c.isDigit then some (c.toNat - '0'.toNat) else none := by
  by_cases digit : c.isDigit
  · rw [digitValue?, if_pos (isDigit_iff.1 digit), if_pos digit]
  · rw [digitValue?, if_neg (mt isDigit_iff.2 digit), if_neg digit]

theorem digitsFrom?_eq_some_iff {acc : ℕ} :
    digitsFrom? acc ds = some n ↔ (∀ c ∈ ds, c.isDigit) ∧ n = Nat.ofDigitChars 10 ds acc := by
  induction ds generalizing acc with
  | nil =>
    rw [digitsFrom?, Option.some.injEq, Nat.ofDigitChars_nil, eq_comm (a := n)]
    exact (and_iff_right nofun).symm
  | cons c ds ih =>
    rw [digitsFrom?, digitValue?_eq, List.forall_mem_cons, Nat.ofDigitChars_cons]
    by_cases digit : c.isDigit
    · rw [if_pos digit, Option.bind_some, ih, Nat.mul_comm 10 acc]
      simp [digit]
    · simp [digit]

theorem digits?_eq_some_iff : digits? ds = some n ↔ Digits ds n := by
  cases ds with
  | nil =>
    have nothing : ¬ Digits [] n := fun digits => digits.nonempty rfl
    simp [digits?, nothing]
  | cons c ds =>
    have read : digits? (c :: ds) = digitsFrom? 0 (c :: ds) := rfl
    rw [read, digitsFrom?_eq_some_iff]
    constructor
    · rintro ⟨ascii, value⟩
      exact ⟨List.cons_ne_nil c ds, ascii, value⟩
    · intro digits
      exact ⟨digits.ascii, digits.value⟩

/-- A row of digits begins with no sign. -/
theorem Digits.head_ne {c sign : Char} (digits : Digits (c :: ds) n)
    (other : sign.isDigit = false) : c ≠ sign := by
  rintro rfl
  have digit : c.isDigit := digits.ascii c (List.mem_cons_self ..)
  simp [other] at digit

/-! ## Numerals -/

theorem unsigned_bare_iff (bare : ∀ rest, ds ≠ '+' :: rest) : Unsigned ds n ↔ Digits ds n := by
  constructor
  · intro numeral
    cases numeral with
    | bare digits => exact digits
    | plus digits => exact absurd rfl (bare _)
  · exact .bare

theorem unsigned_plus_iff : Unsigned ('+' :: ds) n ↔ Digits ds n := by
  constructor
  · intro numeral
    cases numeral with
    | bare digits => exact absurd rfl (digits.head_ne (by decide))
    | plus digits => exact digits
  · exact .plus

/-- **Natural numbers.** What is read is the number that the text is a numeral of, unless that is
too large. -/
theorem natural?_eq_some_iff {limit : ℕ} {s : String} :
    natural? limit s = some n ↔ Unsigned s.toList n ∧ n ≤ limit := by
  rw [natural?, Option.filter_eq_some_iff, decide_eq_true_iff]
  refine and_congr_left' ?_
  split
  next rest signed => rw [signed, unsigned_plus_iff, digits?_eq_some_iff]
  next bare => rw [unsigned_bare_iff bare, digits?_eq_some_iff]

variable {v : ℤ}

theorem signed_bare_iff (plus : ∀ rest, ds ≠ '+' :: rest) (minus : ∀ rest, ds ≠ '-' :: rest) :
    Signed ds v ↔ ∃ n : ℕ, Digits ds n ∧ (n : ℤ) = v := by
  constructor
  · intro numeral
    cases numeral with
    | bare digits => exact ⟨_, digits, rfl⟩
    | plus digits => exact absurd rfl (plus _)
    | minus digits => exact absurd rfl (minus _)
  · rintro ⟨n, digits, rfl⟩
    exact .bare digits

theorem signed_plus_iff : Signed ('+' :: ds) v ↔ ∃ n : ℕ, Digits ds n ∧ (n : ℤ) = v := by
  constructor
  · intro numeral
    cases numeral with
    | bare digits => exact absurd rfl (digits.head_ne (by decide))
    | plus digits => exact ⟨_, digits, rfl⟩
  · rintro ⟨n, digits, rfl⟩
    exact .plus digits

theorem signed_minus_iff : Signed ('-' :: ds) v ↔ ∃ n : ℕ, Digits ds n ∧ -(n : ℤ) = v := by
  constructor
  · intro numeral
    cases numeral with
    | bare digits => exact absurd rfl (digits.head_ne (by decide))
    | minus digits => exact ⟨_, digits, rfl⟩
  · rintro ⟨n, digits, rfl⟩
    exact .minus digits

/-- **Integers.** What is read is the number that the text is a numeral of, if that is in range. -/
theorem integer?_eq_some_iff {low high : ℤ} {s : String} :
    integer? low high s = some v ↔ Signed s.toList v ∧ low ≤ v ∧ v ≤ high := by
  rw [integer?, Option.filter_eq_some_iff, Bool.and_eq_true, decide_eq_true_iff, decide_eq_true_iff]
  refine and_congr_left' ?_
  split
  next rest signed =>
    rw [signed, signed_plus_iff, Option.map_eq_some_iff]
    simp only [digits?_eq_some_iff, Int.ofNat_eq_natCast]
  next rest signed =>
    rw [signed, signed_minus_iff, Option.map_eq_some_iff]
    simp only [Option.bind_eq_bind, Option.pure_def, Option.bind_eq_some_iff, Option.some.injEq,
      digits?_eq_some_iff]
    constructor
    · rintro ⟨_, ⟨n, digits, rfl⟩, rfl⟩
      exact ⟨n, digits, rfl⟩
    · rintro ⟨n, digits, rfl⟩
      exact ⟨n, ⟨n, digits, rfl⟩, rfl⟩
  next plus minus =>
    rw [signed_bare_iff plus minus, Option.map_eq_some_iff]
    simp only [digits?_eq_some_iff, Int.ofNat_eq_natCast]

/-! ## Numbers of the machine -/

theorem unsigned64?_eq_some_iff {s : String} :
    unsigned64? s = some n ↔ Unsigned s.toList n ∧ n < UInt64.size := by
  rw [unsigned64?, natural?_eq_some_iff]
  exact and_congr_right' (Nat.le_sub_one_iff_lt (by decide))

theorem signed64?_eq_some_iff {s : String} :
    signed64? s = some v ↔
      Signed s.toList v ∧ Int64.minValue.toInt ≤ v ∧ v ≤ Int64.maxValue.toInt := by
  have least : (-(Nat.pow 2 63 : ℕ) : ℤ) = Int64.minValue.toInt := by decide
  have greatest : ((Nat.pow 2 63 : ℕ) - 1 : ℤ) = Int64.maxValue.toInt := by decide
  rw [signed64?, integer?_eq_some_iff, least, greatest]

/-! ## What is written -/

theorem digitChar_eq {d : ℕ} (small : d < 10) : digitChar d = Nat.digitChar d := by
  have each : ∀ d < 10, digitChar d = Nat.digitChar d := by decide
  exact each d small

theorem decimalDigits_eq (n : ℕ) : decimalDigits n = Nat.toDigits 10 n := by
  fun_induction decimalDigits n with
  | case1 n small => rw [Nat.toDigits_of_lt_base small, digitChar_eq small]
  | case2 n large ih =>
    have last : n % 10 < 10 := Nat.mod_lt n (by decide)
    rw [Nat.toDigits_of_base_le (by decide) (Nat.not_lt.1 large), ih, digitChar_eq last]

/-- A number in decimal is written as everywhere. -/
theorem decimal_eq_repr (n : ℕ) : decimal n = n.repr := by
  rw [decimal, decimalDigits_eq, Nat.repr_eq_ofList_toDigits]

/-- **What is written is a numeral.** -/
theorem digits_repr (n : ℕ) : Digits n.repr.toList n := by
  rw [Nat.toList_repr]
  exact ⟨Nat.toDigits_ne_nil, fun c mem => Nat.isDigit_of_mem_toDigits (by decide) (by decide) mem,
    Nat.ofDigitChars_ten_toDigits.symm⟩

theorem repr_injective : Function.Injective Nat.repr := by
  intro n m same
  calc
    n = Nat.ofDigitChars 10 n.repr.toList 0 := (digits_repr n).value
    _ = Nat.ofDigitChars 10 m.repr.toList 0 := by rw [same]
    _ = m := (digits_repr m).value.symm

end Testbed.Text
