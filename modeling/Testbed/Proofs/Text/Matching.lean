import Testbed.Text.Pattern
/-!
# What patterns match

`Pattern.Matches` says between which places of a text a pattern matches, without any sets of places:
a repetition is a row of matches, as long as its bounds allow. A row that is longer than the text
has an empty match in it, which can be left out or put in once more; that is why `Pattern.ends` need
not count further than the text is long.

Main statements: `testBit_ends`, the places where a match may end are computed; `occursIn_iff` and
`fits_iff`, whether some part of a text matches, and all of it; `occursIn_plain`, a text is found
where it stands.
-/
namespace Testbed.Text

/-! ## Rows -/

/-- A number of steps in a row. -/
def Row (R : Nat → Nat → Prop) : Nat → Nat → Nat → Prop
  | 0, i, j => i = j
  | n + 1, i, j => ∃ k, R i k ∧ Row R n k j

variable {R : Nat → Nat → Prop} {n m i j k : Nat}

theorem Row.append (first : Row R n i k) (second : Row R m k j) : Row R (n + m) i j := by
  induction n generalizing i with
  | zero =>
    obtain rfl : i = k := first
    rwa [Nat.zero_add]
  | succ n ih =>
    obtain ⟨l, step, rest⟩ := first
    rw [Nat.succ_add]
    exact ⟨l, step, ih rest⟩

theorem row_add : Row R (n + m) i j ↔ ∃ k, Row R n i k ∧ Row R m k j := by
  constructor
  · intro all
    induction n generalizing i with
    | zero => exact ⟨i, rfl, by rwa [Nat.zero_add] at all⟩
    | succ n ih =>
      rw [Nat.succ_add] at all
      obtain ⟨l, step, rest⟩ := all
      obtain ⟨k, first, second⟩ := ih rest
      exact ⟨k, ⟨l, step, first⟩, second⟩
  · rintro ⟨k, first, second⟩
    exact first.append second

/-- Steps lead on, and not beyond a limit. -/
def Bounded (R : Nat → Nat → Prop) (limit : Nat) : Prop :=
  ∀ i j, i ≤ limit → R i j → i ≤ j ∧ j ≤ limit

variable {limit : Nat}

theorem Bounded.row (bounded : Bounded R limit) : Bounded (Row R n) limit := by
  intro i j low row
  induction n generalizing i with
  | zero =>
    obtain rfl : i = j := row
    exact ⟨Nat.le_refl _, low⟩
  | succ n ih =>
    obtain ⟨k, step, rest⟩ := row
    obtain ⟨le, low⟩ := bounded i k low step
    obtain ⟨le', low'⟩ := ih k low rest
    exact ⟨Nat.le_trans le le', low'⟩

/-- A row that is longer than what is left to go has a step on the spot. -/
theorem exists_still (bounded : Bounded R limit) (low : i ≤ limit) (row : Row R n i j)
    (long : j < i + n) : ∃ a b k, n = a + 1 + b ∧ Row R a i k ∧ R k k ∧ Row R b k j := by
  induction n generalizing i with
  | zero =>
    obtain rfl : i = j := row
    exact absurd long (Nat.lt_irrefl i)
  | succ n ih =>
    obtain ⟨k, step, rest⟩ := row
    obtain ⟨le, low'⟩ := bounded i k low step
    by_cases still : i = k
    · subst k
      exact ⟨0, n, i, by omega, rfl, step, rest⟩
    · obtain ⟨a, b, l, rfl, first, spot, second⟩ := ih low' rest (by omega)
      exact ⟨a + 1, b, l, by omega, ⟨k, step, first⟩, spot, second⟩

/-- A row that is longer than the text can be made longer by one, or shorter. -/
theorem row_succ_iff (bounded : Bounded R limit) (low : i ≤ limit) (long : limit < n) :
    Row R (n + 1) i j ↔ Row R n i j := by
  constructor
  · intro row
    have := (bounded.row i j low row).2
    obtain ⟨a, b, k, same, first, -, second⟩ := exists_still bounded low row (by omega)
    obtain rfl : n = a + b := by omega
    exact first.append second
  · intro row
    have := (bounded.row i j low row).2
    obtain ⟨a, b, k, rfl, first, still, second⟩ := exists_still bounded low row (by omega)
    have twice : Row R (1 + 1) k k := ⟨k, still, k, still, rfl⟩
    have all := (first.append twice).append second
    rwa [show a + (1 + 1) + b = a + 1 + b + 1 by omega] at all

/-- All rows that are longer than the text lead to the same places. -/
theorem row_long_iff (bounded : Bounded R limit) (low : i ≤ limit) (long : limit < n) :
    Row R n i j ↔ Row R (limit + 1) i j := by
  obtain ⟨d, rfl⟩ : ∃ d, n = limit + 1 + d := ⟨n - (limit + 1), by omega⟩
  clear long
  induction d with
  | zero => exact Iff.rfl
  | succ d ih =>
    have long : limit < limit + 1 + d := by omega
    exact (row_succ_iff bounded low long).trans ih

/-- No repetition needs to be counted further than just beyond the text. -/
theorem row_counted_iff (bounded : Bounded R limit) (low : i ≤ limit) (least : Nat)
    (most : Option Nat) :
    (∃ m, m ≤ min (most.elim (limit + 1) (· - least)) (limit + 1) ∧
      Row R (min least (limit + 1) + m) i j) ↔
    ∃ n, least ≤ n ∧ (∀ m ∈ most, n ≤ max least m) ∧ Row R n i j := by
  constructor
  · rintro ⟨m, few, row⟩
    by_cases within : least ≤ limit + 1
    · rw [Nat.min_eq_left within] at row
      refine ⟨least + m, Nat.le_add_right _ _, ?_, row⟩
      rintro most rfl
      have : m ≤ most - least := Nat.le_trans few (Nat.min_le_left _ _)
      omega
    · rw [Nat.min_eq_right (by omega), row_long_iff bounded low (by omega)] at row
      exact ⟨least, Nat.le_refl _, fun m _ => Nat.le_max_left _ _,
        (row_long_iff bounded low (by omega)).2 row⟩
  · rintro ⟨n, enough, few, row⟩
    by_cases long : limit < n
    · rw [row_long_iff bounded low long] at row
      by_cases within : least ≤ limit + 1
      · refine ⟨limit + 1 - least, ?_, ?_⟩
        · cases most with
          | none => simp only [Option.elim]; omega
          | some most =>
            have := few most rfl
            simp only [Option.elim]
            omega
        · rwa [Nat.min_eq_left within, Nat.add_sub_cancel' within]
      · exact ⟨0, Nat.zero_le _, by rwa [Nat.min_eq_right (by omega)]⟩
    · refine ⟨n - least, ?_, ?_⟩
      · cases most with
        | none => simp only [Option.elim]; omega
        | some most =>
          have := few most rfl
          simp only [Option.elim]
          omega
      · rwa [Nat.min_eq_left (by omega), Nat.add_sub_cancel' enough]

/-! ## Sets of places -/

/-- A function on sets of places that follows steps, as long as the places are in the text. -/
def Follows (f : Nat → Nat) (R : Nat → Nat → Prop) (limit : Nat) : Prop :=
  ∀ places, (∀ i, places.testBit i → i ≤ limit) →
    ∀ j, (f places).testBit j ↔ ∃ i, places.testBit i ∧ R i j

/-- The places that steps lead to are in the text. -/
theorem Follows.low {f : Nat → Nat} (follows : Follows f R limit) (bounded : Bounded R limit)
    {places : Nat} (low : ∀ i, places.testBit i → i ≤ limit) :
    ∀ j, (f places).testBit j → j ≤ limit := by
  intro j reached
  obtain ⟨i, here, step⟩ := (follows places low j).1 reached
  exact (bounded i j (low i here) step).2

theorem follows_iterate {f : Nat → Nat} (follows : Follows f R limit) (bounded : Bounded R limit)
    (n : Nat) : Follows (iterate f n) (Row R n) limit := by
  induction n with
  | zero =>
    intro places low j
    exact ⟨fun here => ⟨j, here, rfl⟩, fun ⟨_, here, same⟩ => same ▸ here⟩
  | succ n ih =>
    intro places low j
    rw [iterate, ih _ (follows.low bounded low)]
    constructor
    · rintro ⟨k, reached, rest⟩
      obtain ⟨i, here, step⟩ := (follows places low k).1 reached
      exact ⟨i, here, k, step, rest⟩
    · rintro ⟨i, here, k, step, rest⟩
      exact ⟨k, (follows places low k).2 ⟨i, here, step⟩, rest⟩

theorem follows_reach {f : Nat → Nat} (follows : Follows f R limit) (bounded : Bounded R limit)
    (n : Nat) : Follows (reach f n) (fun i j => ∃ m, m ≤ n ∧ Row R m i j) limit := by
  induction n with
  | zero =>
    intro places low j
    constructor
    · exact fun here => ⟨j, here, 0, Nat.le_refl _, rfl⟩
    · rintro ⟨i, here, m, none, row⟩
      obtain rfl := Nat.le_zero.1 none
      obtain rfl : i = j := row
      exact here
  | succ n ih =>
    intro places low j
    have low' : ∀ i, (places ||| f places).testBit i → i ≤ limit := by
      intro i reached
      rw [Nat.testBit_or, Bool.or_eq_true] at reached
      exact reached.elim (low i) (follows.low bounded low i)
    rw [reach, ih _ low']
    constructor
    · rintro ⟨k, reached, m, few, row⟩
      rw [Nat.testBit_or, Bool.or_eq_true, follows places low] at reached
      rcases reached with here | ⟨i, here, step⟩
      · exact ⟨k, here, m, by omega, row⟩
      · exact ⟨i, here, m + 1, by omega, k, step, row⟩
    · rintro ⟨i, here, m, few, row⟩
      rcases m with _ | m
      · exact ⟨i, by simp [here], 0, Nat.zero_le _, row⟩
      · obtain ⟨k, step, rest⟩ := row
        refine ⟨k, ?_, m, by omega, rest⟩
        rw [Nat.testBit_or, Bool.or_eq_true, follows places low]
        exact .inr ⟨i, here, step⟩

/-- The places where something holds. -/
theorem testBit_placesWhere {p : Option Char → Option Char → Bool} (before : Option Char)
    (text : List Char) (i : Nat) :
    (placesWhere p before text).testBit i ↔ i ≤ text.length ∧
      p (if i = 0 then before else text[i - 1]?) text[i]? := by
  induction text generalizing before i with
  | nil =>
    rw [placesWhere]
    rcases i with _ | i
    · cases h : p before none <;> simp [h]
    · cases p before none <;> simp [Nat.testBit_succ]
  | cons c text ih =>
    rw [placesWhere]
    rcases i with _ | i
    · cases h : p before (some c) <;> simp [h]
    · have half : (2 * placesWhere p (some c) text +
          if p before (some c) then 1 else 0) / 2 = placesWhere p (some c) text := by
        split <;> omega
      rw [Nat.testBit_succ, half, ih]
      rcases i with _ | i <;> simp

/-- All places of a text. -/
theorem testBit_everywhere (n i : Nat) : (1 <<< (n + 1) - 1).testBit i ↔ i ≤ n := by
  rw [Nat.one_shiftLeft, Nat.testBit_two_pow_sub_one, decide_eq_true_iff, Nat.lt_succ_iff]

theorem testBit_reach_shift (n places j : Nat) :
    (reach (· <<< 1) n places).testBit j ↔ ∃ i, places.testBit i ∧ i ≤ j ∧ j ≤ i + n := by
  induction n generalizing places with
  | zero =>
    constructor
    · exact fun here => ⟨j, here, Nat.le_refl _, Nat.le_refl _⟩
    · rintro ⟨i, here, le, ge⟩
      exact Nat.le_antisymm le ge ▸ here
  | succ n ih =>
    rw [reach, ih]
    constructor
    · rintro ⟨k, reached, le, ge⟩
      rw [Nat.testBit_or, Nat.testBit_shiftLeft, Bool.or_eq_true, Bool.and_eq_true,
        decide_eq_true_iff] at reached
      rcases reached with here | ⟨pos, here⟩
      · exact ⟨k, here, le, by omega⟩
      · exact ⟨k - 1, here, by omega, by omega⟩
    · rintro ⟨i, here, le, ge⟩
      by_cases far : j = i + (n + 1)
      · exact ⟨i + 1, by simp [Nat.testBit_shiftLeft, here], by omega, by omega⟩
      · exact ⟨i, by simp [here], le, by omega⟩

namespace Pattern

/-! ## Matches -/

variable {text : List Char}

/-- A pattern matches the part of a text between two places. A part that repeats a group stands for
any text. -/
def Matches (text : List Char) : Pattern → Nat → Nat → Prop
  | .nothing, i, j => i = j
  | .one set, i, j => j = i + 1 ∧ ∃ c, text[i]? = some c ∧ set.holds c
  | .edge e, i, j =>
    i = j ∧ i ≤ text.length ∧ e.holds (if i = 0 then none else text[i - 1]?) text[i]?
  | .sequence p q, i, j => ∃ k, p.Matches text i k ∧ q.Matches text k j
  | .either p q, i, j => p.Matches text i j ∨ q.Matches text i j
  | .repeated p least most, i, j =>
    ∃ n, least ≤ n ∧ (∀ m ∈ most, n ≤ max least m) ∧ Row (p.Matches text) n i j
  | .group _ p, i, j => p.Matches text i j
  | .again _, i, j => i ≤ j ∧ j ≤ text.length

theorem bounded_matches (p : Pattern) : Bounded (p.Matches text) text.length := by
  induction p with
  | nothing =>
    rintro i j low rfl
    exact ⟨Nat.le_refl _, low⟩
  | one set =>
    rintro i j low ⟨rfl, c, here, -⟩
    have := (List.getElem?_eq_some_iff.1 here).1
    omega
  | edge e =>
    rintro i j low ⟨rfl, -⟩
    exact ⟨Nat.le_refl _, low⟩
  | sequence p q first second =>
    rintro i j low ⟨k, left, right⟩
    obtain ⟨le, low⟩ := first i k low left
    obtain ⟨le', low'⟩ := second k j low right
    exact ⟨Nat.le_trans le le', low'⟩
  | either p q first second =>
    rintro i j low (left | right)
    · exact first i j low left
    · exact second i j low right
  | repeated p least most ih =>
    rintro i j low ⟨n, -, -, row⟩
    exact ih.row i j low row
  | group n p ih => exact ih
  | again n => exact fun i j _ bounds => bounds

/-- The ends that are computed are those of the matches. -/
theorem testBit_ends (p : Pattern) : Follows (p.ends text) (p.Matches text) text.length := by
  induction p with
  | nothing =>
    intro places low j
    exact ⟨fun here => ⟨j, here, rfl⟩, fun ⟨_, here, same⟩ => same ▸ here⟩
  | one set =>
    intro places low j
    rw [ends, Nat.testBit_shiftLeft, Nat.testBit_and]
    constructor
    · intro reached
      simp only [Bool.and_eq_true, decide_eq_true_iff, testBit_placesWhere] at reached
      obtain ⟨le, here, -, holds⟩ := reached
      rw [Option.any_eq_true] at holds
      obtain ⟨c, char, holds⟩ := holds
      exact ⟨j - 1, here, by omega, c, char, holds⟩
    · rintro ⟨i, here, rfl, c, char, holds⟩
      simp only [Bool.and_eq_true, decide_eq_true_iff, testBit_placesWhere]
      exact ⟨Nat.le_add_left _ _, here, low i here, by simp [char, holds]⟩
  | edge e =>
    intro places low j
    rw [ends, Nat.testBit_and, Bool.and_eq_true, testBit_placesWhere]
    exact ⟨fun ⟨here, holds⟩ => ⟨j, here, rfl, holds⟩,
      fun ⟨_, here, same, holds⟩ => same ▸ ⟨here, holds⟩⟩
  | sequence p q first second =>
    intro places low j
    rw [ends, second _ (first.low p.bounded_matches low)]
    constructor
    · rintro ⟨k, reached, right⟩
      obtain ⟨i, here, left⟩ := (first places low k).1 reached
      exact ⟨i, here, k, left, right⟩
    · rintro ⟨i, here, k, left, right⟩
      exact ⟨k, (first places low k).2 ⟨i, here, left⟩, right⟩
  | either p q first second =>
    intro places low j
    rw [ends, Nat.testBit_or, Bool.or_eq_true, first places low, second places low]
    constructor
    · rintro (⟨i, here, left⟩ | ⟨i, here, right⟩)
      · exact ⟨i, here, .inl left⟩
      · exact ⟨i, here, .inr right⟩
    · rintro ⟨i, here, left | right⟩
      · exact .inl ⟨i, here, left⟩
      · exact .inr ⟨i, here, right⟩
  | repeated p least most ih =>
    intro places low j
    have bounded : Bounded (p.Matches text) text.length := p.bounded_matches
    have first := follows_iterate ih bounded (min least (text.length + 1))
    rw [ends, follows_reach ih bounded _ _ (first.low bounded.row low)]
    constructor
    · rintro ⟨k, reached, m, few, rest⟩
      obtain ⟨i, here, row⟩ := (first places low k).1 reached
      exact ⟨i, here, (row_counted_iff bounded (low i here) least most).1 ⟨m, few, row.append rest⟩⟩
    · rintro ⟨i, here, counted⟩
      obtain ⟨m, few, row⟩ := (row_counted_iff bounded (low i here) least most).2 counted
      obtain ⟨k, row, rest⟩ := row_add.1 row
      exact ⟨k, (first places low k).2 ⟨i, here, row⟩, m, few, rest⟩
  | group n p ih => exact ih
  | again n =>
    intro places low j
    rw [ends, Nat.testBit_and, Bool.and_eq_true, testBit_reach_shift, testBit_everywhere]
    constructor
    · rintro ⟨⟨i, here, le, -⟩, low'⟩
      exact ⟨i, here, le, low'⟩
    · rintro ⟨i, here, le, low'⟩
      exact ⟨⟨i, here, le, Nat.le_trans low' (Nat.le_add_left _ _)⟩, low'⟩

/-- Some part of a text matches. -/
theorem occursIn_iff (p : Pattern) (text : List Char) :
    p.occursIn text ↔ ∃ i j, i ≤ text.length ∧ p.Matches text i j := by
  have all : ∀ i, (1 <<< (text.length + 1) - 1).testBit i → i ≤ text.length := fun i =>
    (testBit_everywhere _ i).1
  have ends := p.testBit_ends _ all
  rw [occursIn, decide_eq_true_iff]
  constructor
  · intro some
    obtain ⟨j, reached⟩ := Nat.exists_testBit_of_ne_zero some
    obtain ⟨i, here, matched⟩ := (ends j).1 reached
    exact ⟨i, j, all i here, matched⟩
  · rintro ⟨i, j, low, matched⟩ none
    have reached := (ends j).2 ⟨i, (testBit_everywhere _ i).2 low, matched⟩
    rw [none, Nat.zero_testBit] at reached
    exact Bool.noConfusion reached

/-- All of a text matches. -/
theorem fits_iff (p : Pattern) (text : List Char) :
    p.fits text ↔ p.Matches text 0 text.length := by
  have first : ∀ i, (1 : Nat).testBit i ↔ i = 0 := fun i => Nat.testBit_one_eq_true_iff_self_eq_zero
  have low : ∀ i, (1 : Nat).testBit i → i ≤ text.length := fun i here =>
    (first i).1 here ▸ Nat.zero_le _
  rw [fits, p.testBit_ends 1 low]
  constructor
  · rintro ⟨i, here, matched⟩
    exact (first i).1 here ▸ matched
  · exact fun matched => ⟨0, (first 0).2 rfl, matched⟩

/-- The ends from one place. -/
theorem mem_endsFrom_iff (p : Pattern) {i j : Nat} (low : i ≤ text.length) :
    j ∈ p.endsFrom text i ↔ p.Matches text i j := by
  have only : ∀ k, (1 <<< i).testBit k ↔ k = i := fun k => by
    rw [Nat.one_shiftLeft, Nat.testBit_two_pow, decide_eq_true_iff, eq_comm]
  have ends := p.testBit_ends (1 <<< i) (fun k here => (only k).1 here ▸ low) j
  rw [endsFrom, List.mem_filter, List.mem_range, ends]
  constructor
  · rintro ⟨-, k, here, matched⟩
    exact (only k).1 here ▸ matched
  · intro matched
    exact ⟨Nat.lt_succ_of_le (p.bounded_matches i j low matched).2, i, (only i).2 rfl, matched⟩

/-! ## Plain text -/

/-- The pattern that only a text itself matches. -/
def plain (s : List Char) : Pattern := .ofList (s.map fun c => .one (.single c))

theorem holds_single (c d : Char) : (CharSet.single c).holds d ↔ c = d := by
  simp only [CharSet.single, CharSet.holds, List.any_cons, List.any_nil, Bool.or_false,
    Bool.and_eq_true, decide_eq_true_iff]
  rw [← Nat.le_antisymm_iff, Char.toNat_inj]

theorem matches_ofList_cons (p : Pattern) (rest : List Pattern) (i j : Nat) :
    (ofList (p :: rest)).Matches text i j ↔
      ∃ k, p.Matches text i k ∧ (ofList rest).Matches text k j := by
  cases rest with
  | nil =>
    constructor
    · exact fun matched => ⟨j, matched, rfl⟩
    · rintro ⟨k, matched, rfl⟩
      exact matched
  | cons q rest => exact Iff.rfl

theorem matches_plain (s : List Char) (i j : Nat) :
    (plain s).Matches text i j ↔ j = i + s.length ∧ s <+: text.drop i := by
  induction s generalizing i with
  | nil => simp [plain, ofList, Matches, eq_comm]
  | cons c s ih =>
    rw [plain, List.map_cons, matches_ofList_cons, ← plain]
    constructor
    · rintro ⟨_, ⟨rfl, d, here, same⟩, rest⟩
      obtain ⟨rfl, behind⟩ := (ih (i + 1)).1 rest
      obtain rfl := (holds_single c d).1 same
      obtain ⟨low, rfl⟩ := List.getElem?_eq_some_iff.1 here
      refine ⟨by rw [List.length_cons]; omega, ?_⟩
      rw [List.drop_eq_getElem_cons low, List.cons_prefix_cons]
      exact ⟨rfl, behind⟩
    · rintro ⟨rfl, behind⟩
      have low : i < text.length := by
        have := behind.length_le
        rw [List.length_cons, List.length_drop] at this
        omega
      rw [List.drop_eq_getElem_cons low, List.cons_prefix_cons] at behind
      obtain ⟨rfl, behind⟩ := behind
      refine ⟨i + 1, ⟨rfl, text[i], List.getElem?_eq_getElem low, (holds_single _ _).2 rfl⟩, ?_⟩
      exact (ih (i + 1)).2 ⟨by rw [List.length_cons]; omega, behind⟩

theorem occursIn_plain (s text : List Char) : (plain s).occursIn text ↔ s <:+: text := by
  rw [occursIn_iff]
  constructor
  · rintro ⟨i, j, -, matched⟩
    have behind := ((matches_plain s i j).1 matched).2
    exact behind.isInfix.trans (text.drop_suffix i).isInfix
  · rintro ⟨front, back, rfl⟩
    refine ⟨front.length, front.length + s.length, ?_, (matches_plain s _ _).2 ⟨rfl, ?_⟩⟩
    · simp only [List.length_append]; omega
    · simp

end Pattern

end Testbed.Text
