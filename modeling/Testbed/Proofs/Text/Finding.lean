import Testbed.Proofs.Text.Matching
/-!
# What is found in a text

Following a pattern with its groups finds an end if there is one: the choices are tried in order,
and none that leads on is left out but the empty repetitions. So `Pattern.find?` finds the first
match, and the longest of those that begin there. This is about patterns that repeat no group:
`Pattern.Matches` takes such a part for any text.
-/
namespace Testbed.Text.Pattern

variable {α : Type} {text : List Char} {p : Pattern} {i j : Nat}

/-- A way to follow a relation of places finds an end that can be gone on from, if there is one. -/
def Thorough (step : Nat → Groups → (Nat → Groups → Option α) → Option α)
    (R : Nat → Nat → Prop) (limit : Nat) : Prop :=
  ∀ i j groups goOn, i ≤ limit → R i j → (∀ groups, (goOn j groups).isSome) →
    (step i groups goOn).isSome

/-- A way to follow a relation of places goes on from places that it leads to. -/
def Honest (step : Nat → Groups → (Nat → Groups → Option α) → Option α)
    (R : Nat → Nat → Prop) (limit : Nat) : Prop :=
  ∀ i groups goOn r, i ≤ limit → step i groups goOn = some r →
    ∃ j groups, R i j ∧ goOn j groups = some r

variable {step : Nat → Groups → (Nat → Groups → Option α) → Option α} {R : Nat → Nat → Prop}
  {limit least : Nat} {most : Option Nat} {goOn : Nat → Groups → Option α}

theorem isSome_orElse (a b : Option α) : (a <|> b).isSome ↔ a.isSome ∨ b.isSome := by
  cases a <;> simp

theorem thorough_repeated (thorough : Thorough step R limit) (bounded : Bounded R limit)
    (goes : ∀ groups, (goOn j groups).isSome)
    (fuel count n i : Nat) (groups : Groups) (low : i ≤ limit) (row : Row R n i j)
    (enough : least ≤ count + n) (few : ∀ m ∈ most, count + n ≤ max least m)
    (fueled : (least - count) + (limit - i) ≤ fuel) :
    (traceRepeated step least most goOn fuel count i groups).isSome := by
  induction fuel generalizing count n i groups with
  | zero =>
    obtain ⟨le, low'⟩ := bounded.row i j low row
    obtain rfl : i = j := by omega
    exact goes groups
  | succ fuel ih =>
    rw [traceRepeated]
    by_cases short : count < least
    · rw [if_pos short]
      obtain ⟨n, rfl⟩ : ∃ m, n = m + 1 := ⟨n - 1, by omega⟩
      obtain ⟨k, first, rest⟩ := row
      obtain ⟨le, low'⟩ := bounded i k low first
      refine thorough i k groups _ low first fun groups => ?_
      refine ih (count + 1) n k groups low' rest (by omega) (fun m mem => ?_) (by omega)
      have := few m mem
      omega
    · rw [if_neg short]
      -- The empty repetitions at the front of the row are left out.
      induction n with
      | zero =>
        obtain rfl : i = j := row
        exact (isSome_orElse _ _).2 (.inr (goes groups))
      | succ n next =>
        obtain ⟨k, first, rest⟩ := row
        obtain ⟨le, low'⟩ := bounded i k low first
        by_cases still : k = i
        · subst still
          exact next rest (by omega) fun m mem => by have := few m mem; omega
        · have further : most.all (count < ·) := by
            rw [Option.all_eq_true]
            intro m given
            have := few m given
            exact decide_eq_true (by omega)
          refine (isSome_orElse _ _).2 (.inl ?_)
          rw [if_pos further]
          refine thorough i k groups _ low first fun groups => ?_
          rw [if_neg still]
          refine ih (count + 1) n k groups low' rest (by omega) (fun m mem => ?_) (by omega)
          have := few m mem
          omega

/-- An end that a pattern has is found. -/
theorem thorough_trace? (text : List Char) (p : Pattern) (refers : p.refers = false) :
    Thorough (α := α) (p.trace? text) (p.Matches text) text.length := by
  induction p with
  | nothing =>
    rintro i j groups goOn low rfl goes
    exact goes groups
  | one set =>
    rintro i j groups goOn low ⟨rfl, c, here, holds⟩ goes
    rw [trace?, here, Option.any_some, if_pos holds]
    exact goes groups
  | edge e =>
    rintro i j groups goOn low ⟨rfl, -, holds⟩ goes
    rw [trace?, if_pos holds]
    exact goes groups
  | sequence p q first second =>
    obtain ⟨left, right⟩ := Bool.or_eq_false_iff.1 refers
    rintro i j groups goOn low ⟨k, matched, rest⟩ goes
    have within := (p.bounded_matches i k low matched).2
    exact first left i k groups _ low matched fun groups =>
      second right k j groups goOn within rest goes
  | either p q first second =>
    obtain ⟨left, right⟩ := Bool.or_eq_false_iff.1 refers
    rintro i j groups goOn low (matched | matched) goes
    · exact (isSome_orElse _ _).2 (.inl (first left i j groups goOn low matched goes))
    · exact (isSome_orElse _ _).2 (.inr (second right i j groups goOn low matched goes))
  | repeated p least most ih =>
    rintro i j groups goOn low ⟨n, enough, few, row⟩ goes
    exact thorough_repeated (ih refers) p.bounded_matches goes _ 0 n i groups low row (by omega)
      (by simpa using few) (by omega)
  | group number p ih =>
    intro i j groups goOn low matched goes
    exact ih refers i j groups _ low matched fun groups => goes _
  | again number => exact Bool.noConfusion refers

theorem orElse_eq_some {a b : Option α} {r : α} (found : (a <|> b) = some r) :
    a = some r ∨ b = some r := by
  cases a with
  | none => exact .inr found
  | some => exact .inl found

/-- A row that completes a number of repetitions. -/
def Completes (R : Nat → Nat → Prop) (least : Nat) (most : Option Nat) (count i j : Nat) : Prop :=
  ∃ n, least ≤ count + n ∧ (∀ m ∈ most, count + n ≤ max least m) ∧ Row R n i j

theorem Completes.cons {count k : Nat} (first : R i k)
    (rest : Completes R least most (count + 1) k j) :
    Completes R least most count i j := by
  obtain ⟨n, enough, few, row⟩ := rest
  have same : count + 1 + n = count + (n + 1) := by omega
  rw [same] at enough few
  exact ⟨n + 1, enough, few, k, first, row⟩

theorem honest_repeated (honest : Honest step R limit) (bounded : Bounded R limit) {r : α}
    (fuel count i : Nat) (groups : Groups)
    (low : i ≤ limit) (few : ∀ m ∈ most, count ≤ max least m) (fueled : least ≤ count + fuel)
    (found : traceRepeated step least most goOn fuel count i groups = some r) :
    ∃ j groups, Completes R least most count i j ∧ goOn j groups = some r := by
  induction fuel generalizing count i groups with
  | zero => exact ⟨i, groups, ⟨0, fueled, few, rfl⟩, found⟩
  | succ fuel ih =>
    rw [traceRepeated] at found
    by_cases short : count < least
    · rw [if_pos short] at found
      obtain ⟨k, groups, first, found⟩ := honest i groups _ r low found
      have few : ∀ m ∈ most, count + 1 ≤ max least m := fun m _ => by omega
      obtain ⟨j, groups, rest, found⟩ := ih (count + 1) k groups (bounded i k low first).2 few
        (by omega) found
      exact ⟨j, groups, .cons first rest, found⟩
    · rw [if_neg short] at found
      rcases orElse_eq_some found with found | found
      · obtain ⟨further, found⟩ := Option.ite_none_right_eq_some.1 found
        obtain ⟨k, groups, first, found⟩ := honest i groups _ r low found
        obtain ⟨-, found⟩ := Option.ite_none_left_eq_some.1 found
        have few : ∀ m ∈ most, count + 1 ≤ max least m := fun m given => by
          have := of_decide_eq_true ((Option.all_eq_true _ _).1 further m given)
          omega
        obtain ⟨j, groups, rest, found⟩ := ih (count + 1) k groups (bounded i k low first).2 few
          (by omega) found
        exact ⟨j, groups, .cons first rest, found⟩
      · exact ⟨i, groups, ⟨0, by omega, few, rfl⟩, found⟩

/-- An end that is found is one that the pattern has. -/
theorem honest_trace? (text : List Char) (p : Pattern) :
    Honest (α := α) (p.trace? text) (p.Matches text) text.length := by
  induction p with
  | nothing =>
    intro i groups goOn r low found
    exact ⟨i, groups, rfl, found⟩
  | one set =>
    intro i groups goOn r low found
    obtain ⟨holds, found⟩ := Option.ite_none_right_eq_some.1 found
    obtain ⟨c, here, holds⟩ := (Option.any_eq_true _ _).1 holds
    exact ⟨i + 1, groups, ⟨rfl, c, here, holds⟩, found⟩
  | edge e =>
    intro i groups goOn r low found
    obtain ⟨holds, found⟩ := Option.ite_none_right_eq_some.1 found
    exact ⟨i, groups, ⟨rfl, low, holds⟩, found⟩
  | sequence p q first second =>
    intro i groups goOn r low found
    obtain ⟨k, groups, matched, found⟩ := first i groups _ r low found
    have within := (p.bounded_matches i k low matched).2
    obtain ⟨j, groups, rest, found⟩ := second k groups goOn r within found
    exact ⟨j, groups, ⟨k, matched, rest⟩, found⟩
  | either p q first second =>
    intro i groups goOn r low found
    rcases orElse_eq_some found with found | found
    · obtain ⟨j, groups, matched, found⟩ := first i groups goOn r low found
      exact ⟨j, groups, .inl matched, found⟩
    · obtain ⟨j, groups, matched, found⟩ := second i groups goOn r low found
      exact ⟨j, groups, .inr matched, found⟩
  | repeated p least most ih =>
    intro i groups goOn r low found
    obtain ⟨j, groups, ⟨n, enough, few, row⟩, found⟩ := honest_repeated ih p.bounded_matches _ 0 i
      groups low (fun m _ => Nat.zero_le _) (by omega) found
    rw [Nat.zero_add] at enough few
    exact ⟨j, groups, ⟨n, enough, few, row⟩, found⟩
  | group number p ih =>
    intro i groups goOn r low found
    obtain ⟨j, groups, matched, found⟩ := ih i groups _ r low found
    exact ⟨j, _, matched, found⟩
  | again number =>
    intro i groups goOn r low found
    rw [trace?] at found
    split at found
    next first last known =>
      obtain ⟨here, found⟩ := Option.ite_none_right_eq_some.1 found
      have fits := (List.isPrefixOf_iff_prefix.1 here).length_le
      rw [List.length_drop] at fits
      exact ⟨_, groups, ⟨Nat.le_add_right _ _, by omega⟩, found⟩
    next => cases found

/-! ## The longest match -/

/-- An end that is asked for is found. -/
theorem isSome_traceTo (refers : p.refers = false) (low : i ≤ text.length)
    (matched : p.Matches text i j) :
    (p.trace? text i [] fun place groups => if place = j then some (j, groups) else none).isSome :=
  thorough_trace? text p refers i j [] _ low matched fun groups => by rw [if_pos rfl]; rfl

theorem longestFrom?_eq_none_iff (refers : p.refers = false) (low : i ≤ text.length) :
    p.longestFrom? text i = none ↔ ∀ j, ¬ p.Matches text i j := by
  rw [longestFrom?, List.findSome?_eq_none_iff]
  constructor
  · intro nothing j matched
    have found := isSome_traceTo refers low matched
    rw [nothing j (List.mem_reverse.2 ((p.mem_endsFrom_iff low).2 matched))] at found
    exact Bool.noConfusion found
  · intro nothing j mem
    exact absurd ((p.mem_endsFrom_iff low).1 (List.mem_reverse.1 mem)) (nothing j)

theorem longest_of_longestFrom? (refers : p.refers = false) (low : i ≤ text.length)
    {groups : Groups} (found : p.longestFrom? text i = some (j, groups)) :
    p.Matches text i j ∧ ∀ k, p.Matches text i k → k ≤ j := by
  obtain ⟨front, last, rest, ends, here, nothing⟩ := List.findSome?_eq_some_iff.1 found
  have mem {k : Nat} : k ∈ front ++ last :: rest ↔ p.Matches text i k := by
    rw [← ends, List.mem_reverse, p.mem_endsFrom_iff low]
  have sorted : (front ++ last :: rest).Pairwise (· > ·) := by
    rw [← ends, List.pairwise_reverse]
    exact List.pairwise_lt_range.filter _
  obtain ⟨k, groups', -, same⟩ := honest_trace? text p i [] _ _ low here
  obtain ⟨-, same⟩ := Option.ite_none_right_eq_some.1 same
  obtain ⟨rfl, -⟩ := Prod.mk.inj (Option.some.inj same)
  refine ⟨mem.1 (by simp), fun k matched => ?_⟩
  rcases List.mem_append.1 (mem.2 matched) with before | behind
  · -- An end that was tried first would have been found.
    have found := isSome_traceTo refers low matched
    rw [nothing k before] at found
    exact Bool.noConfusion found
  · rcases List.mem_cons.1 behind with rfl | behind
    · exact Nat.le_refl _
    · exact Nat.le_of_lt (List.rel_of_pairwise_cons (List.pairwise_append.1 sorted).2.1 behind)

/-! ## The first match -/

theorem find?_eq (p : Pattern) (text : List Char) (start : Nat) :
    p.find? text start = (List.range' start (text.length + 1 - start)).findSome? fun first =>
      (p.longestFrom? text first).map fun (last, groups) => (first, last, groups) := by
  rw [find?, List.range_eq_range', List.drop_range', Nat.mul_one, Nat.zero_add]

theorem find?_eq_none_iff (refers : p.refers = false) (start : Nat) :
    p.find? text start = none ↔ ∀ i j, start ≤ i → i ≤ text.length → ¬ p.Matches text i j := by
  rw [find?_eq, List.findSome?_eq_none_iff]
  constructor
  · intro nothing i j behind low
    have here := nothing i (List.mem_range'_1.2 ⟨behind, by omega⟩)
    rw [Option.map_eq_none_iff, longestFrom?_eq_none_iff refers low] at here
    exact here j
  · intro nothing i mem
    obtain ⟨behind, low⟩ := List.mem_range'_1.1 mem
    have low : i ≤ text.length := by omega
    rw [Option.map_eq_none_iff, longestFrom?_eq_none_iff refers low]
    exact fun j => nothing i j behind low

/-- The first match is found, and the longest of those that begin with it. -/
theorem first_of_find? (refers : p.refers = false) {start : Nat} {groups : Groups}
    (found : p.find? text start = some (i, j, groups)) :
    p.Matches text i j ∧ (∀ k, p.Matches text i k → k ≤ j) ∧ start ≤ i ∧
      ∀ i' j', start ≤ i' → i' < i → ¬ p.Matches text i' j' := by
  rw [find?_eq] at found
  obtain ⟨front, first, rest, places, found, nothing⟩ := List.findSome?_eq_some_iff.1 found
  obtain ⟨⟨last, groups'⟩, longest, same⟩ := Option.map_eq_some_iff.1 found
  obtain ⟨rfl, ends⟩ := Prod.mk.inj same
  obtain ⟨rfl, -⟩ := Prod.mk.inj ends
  obtain ⟨behind, low⟩ := List.mem_range'_1.1 (places ▸ List.mem_append_right front (.head rest))
  have low : first ≤ text.length := by omega
  obtain ⟨matched, longest⟩ := longest_of_longestFrom? refers low longest
  refine ⟨matched, longest, behind, fun i' j' le lt => ?_⟩
  have sorted : (front ++ first :: rest).Pairwise (· < ·) := places ▸ List.pairwise_lt_range' 1
  have before : i' ∈ front := by
    have mem : i' ∈ front ++ first :: rest := places ▸ List.mem_range'_1.2 ⟨le, by omega⟩
    rcases List.mem_append.1 mem with before | after
    · exact before
    · rcases List.mem_cons.1 after with rfl | after
      · exact absurd lt (Nat.lt_irrefl _)
      · have := List.rel_of_pairwise_cons (List.pairwise_append.1 sorted).2.1 after
        omega
  have none_here := nothing i' before
  rw [Option.map_eq_none_iff, longestFrom?_eq_none_iff refers (by omega)] at none_here
  exact none_here j'

/-- Whether something is found, groups or not. -/
theorem isFoundIn_iff (refers : p.refers = false) :
    p.isFoundIn text ↔ ∃ i j, i ≤ text.length ∧ p.Matches text i j := by
  rw [isFoundIn, refers, if_neg Bool.false_ne_true, occursIn_iff]

end Testbed.Text.Pattern
