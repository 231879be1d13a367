import Testbed.CommandLine.LogFilter
import Testbed.Proofs.Text.Matching
/-!
# Which entries are shown

Of the directives that fit a target, the longest decides, and of several of one length the last
(`maxRank_of_decides`). An expression without any sign of its own is a text, and the entries with
that text in them are shown (`shows_parse_iff`).
-/
namespace Testbed.Text.Pattern.Expression

/-! ## Expressions that are plain text -/

/-- Characters with a meaning of their own between the parts of an expression. -/
def isSign (c : Char) : Bool :=
  ['|', '(', ')', '[', '\\', '.', '^', '$', '?', '*', '+', '\x7b'].contains c

variable {text : Array Char} {place fuel : Nat} {done : List Pattern} {last : Option Pattern}

theorem run_skip (more : place < text.size) :
    Read.skip.run { text, place } = pure ((), { text, place := place + 1 }) := by
  have skipped : Read.skip.run { text, place } =
      pure ((), { text, place := min (place + 1) text.size }) := rfl
  rw [skipped, Nat.min_eq_left more]

theorem row_beyond (beyond : text[place]? = none) :
    (row (fuel + 1) done last).run { text, place } =
      pure (.ofList (last.toList ++ done).reverse, { text, place }) := by
  simp [row, Read.skipSpace, Read.place, Read.next?, beyond]

theorem row_literal {c : Char} (none_of : isSign c = false) (here : text[place]? = some c) :
    (row (fuel + 1) done last).run { text, place } =
      (row fuel (last.toList ++ done) (some (.one (.single c)))).run
        { text, place := place + 1 } := by
  have more : place < text.size := (Array.getElem?_eq_some_iff.1 here).1
  simp only [row, Read.skipSpace, Read.place, Read.next?, bind_pure_comp, bind_map_left,
    List.contains_eq_mem, List.mem_cons, List.not_mem_nil, or_false, Bool.or_eq_true,
    Bool.decide_or, decide_eq_true_eq, StateT.run_bind, StateT.run_modify, StateT.run_get,
    Bool.false_eq_true, if_false, pure_bind, here]
  split <;> try exact absurd none_of (by decide)
  have sign : ¬ (c = '?' ∨ c = '*' ∨ c = '+' ∨ c = '\x7b') := by
    simp [isSign] at none_of
    simp [none_of]
  rw [if_neg sign]
  simp [run_skip more, Primitive.pattern, cased]

/-- The characters that are no signs are read one by one. -/
theorem row_plain {s : List Char} (plain : ∀ c ∈ s, isSign c = false) (enough : s.length < fuel)
    (rest : text.toList.drop place = s) :
    (row fuel done last).run { text, place } =
      pure (.ofList ((last.toList ++ done).reverse ++ s.map fun c => .one (.single c)),
        { text, place := place + s.length }) := by
  induction s generalizing fuel done last place with
  | nil =>
    obtain ⟨fuel, rfl⟩ := Nat.exists_eq_succ_of_ne_zero (Nat.ne_of_gt enough)
    have beyond : text[place]? = none := by
      rw [← Array.getElem?_toList, ← List.head?_drop, rest, List.head?_nil]
    rw [row_beyond beyond, List.map_nil, List.append_nil, List.length_nil, Nat.add_zero]
  | cons c s ih =>
    obtain ⟨fuel, rfl⟩ := Nat.exists_eq_succ_of_ne_zero (Nat.ne_of_gt (Nat.zero_lt_of_lt enough))
    have here : text[place]? = some c := by
      rw [← Array.getElem?_toList, ← List.head?_drop, rest, List.head?_cons]
    have rest : text.toList.drop (place + 1) = s := by
      rw [← List.drop_drop, rest, List.drop_one, List.tail_cons]
    rw [row_literal (plain c (List.mem_cons_self ..)) here,
      ih (fun d mem => plain d (List.mem_cons_of_mem _ mem)) (Nat.lt_of_succ_lt_succ enough) rest]
    simp [Nat.add_assoc, Nat.add_comm 1]

theorem alternatives_plain {s : List Char} (plain : ∀ c ∈ s, isSign c = false)
    (enough : s.length < fuel) :
    (alternatives (fuel + 1)).run { text := s.toArray } =
      pure (Pattern.plain s, { text := s.toArray, place := s.length }) := by
  have row : (row fuel [] none).run { text := s.toArray } =
      pure (Pattern.plain s, { text := s.toArray, place := 0 + s.length }) :=
    row_plain plain enough rfl
  simp [alternatives, Read.next?, row]

/-- A text without signs is read as itself. -/
theorem read_plain {s : List Char} (plain : ∀ c ∈ s, isSign c = false) :
    read s = .ok (Pattern.plain s) := by
  have enough : s.length < 2 * s.length + 1 := by omega
  have whole := alternatives_plain plain enough
  simp only [read, Read.place, Read.next?, bind_pure_comp, bind_map_left, isSome_getElem?,
    StateT.run_bind, whole, StateT.run_get, pure_bind, List.size_toArray, Nat.lt_irrefl, if_false,
    StateT.run_pure]
  rfl

end Testbed.Text.Pattern.Expression

namespace Testbed.CommandLine

open Text (Pattern)
open Text.Pattern.Expression (isSign)

/-! ## Directives -/

/-- A directive is the last of the longest that fit a target. -/
def Decides (directives : List Directive) (target : List Char) (d : Directive) : Prop :=
  ∃ before after, directives = before ++ d :: after ∧ d.target <+: target ∧
    (∀ b ∈ before, b.target <+: target → b.target.length ≤ d.target.length) ∧
    ∀ a ∈ after, a.target <+: target → a.target.length < d.target.length

variable {directives : List Directive} {target : List Char} {d : Directive}

namespace LogFilter

theorem foldl_longer_of_shorter {fitting : List Directive}
    (shorter : ∀ a ∈ fitting, a.target.length < d.target.length) :
    fitting.foldl longer (some d) = some d := by
  induction fitting with
  | nil => rfl
  | cons a rest ih =>
    have := shorter a (List.mem_cons_self ..)
    rw [List.foldl_cons, longer, if_neg (by omega)]
    exact ih fun b mem => shorter b (List.mem_cons_of_mem _ mem)

/-- What was found before is not longer than a directive that nothing before is longer than. -/
theorem foldl_longer_le {fitting : List Directive} {best : Option Directive}
    (small : ∀ b ∈ best, b.target.length ≤ d.target.length)
    (short : ∀ b ∈ fitting, b.target.length ≤ d.target.length) :
    ∀ b ∈ fitting.foldl longer best, b.target.length ≤ d.target.length := by
  induction fitting generalizing best with
  | nil => exact small
  | cons a rest ih =>
    refine ih ?_ fun b mem => short b (List.mem_cons_of_mem _ mem)
    intro b found
    cases best with
    | none =>
      obtain rfl : a = b := Option.some.inj found
      exact short a (List.mem_cons_self ..)
    | some best =>
      rw [longer] at found
      split at found
      · obtain rfl : a = b := Option.some.inj found
        exact short a (List.mem_cons_self ..)
      · obtain rfl : best = b := Option.some.inj found
        exact small best rfl

theorem longer_of_le {best : Option Directive}
    (small : ∀ b ∈ best, b.target.length ≤ d.target.length) : longer best d = some d := by
  cases best with
  | none => rfl
  | some best => exact if_pos (small best rfl)

/-- The rank of the directive that decides is the rank of a target. -/
theorem maxRank_of_decides {part : Option Pattern} (decides : Decides directives target d) :
    ({ directives, part } : LogFilter).maxRank target = d.maxRank := by
  obtain ⟨before, after, rfl, fits, short, shorter⟩ := decides
  have small : ∀ b ∈ (before.filter fun b => Text.startsWith b.target target).foldl longer none,
      b.target.length ≤ d.target.length := by
    refine foldl_longer_le (by simp) fun b mem => ?_
    obtain ⟨mem, fits⟩ := List.mem_filter.1 mem
    exact short b mem (List.isPrefixOf_iff_prefix.1 fits)
  have last : (after.filter fun a => Text.startsWith a.target target).foldl longer (some d) =
      some d := by
    refine foldl_longer_of_shorter fun a mem => ?_
    obtain ⟨mem, fits⟩ := List.mem_filter.1 mem
    exact shorter a mem (List.isPrefixOf_iff_prefix.1 fits)
  have here : Text.startsWith d.target target := List.isPrefixOf_iff_prefix.2 fits
  have found : ((before ++ d :: after).filter fun d => Text.startsWith d.target target).foldl
      longer none = some d := by
    rw [List.filter_append, List.filter_cons, if_pos here, List.foldl_append, List.foldl_cons,
      longer_of_le small, last]
  rw [maxRank, if_neg (by simp)]
  simp only [found]
  rfl

/-- Without directives only errors are shown, and nothing is if none of them fits. -/
theorem maxRank_of_none {part : Option Pattern}
    (none_fits : ∀ d ∈ directives, ¬ d.target <+: target) :
    ({ directives, part } : LogFilter).maxRank target =
      if directives = [] then Log.Level.error.rank else 0 := by
  have none_left : (directives.filter fun d => Text.startsWith d.target target) = [] :=
    List.filter_eq_nil_iff.2 fun d mem fits => none_fits d mem (List.isPrefixOf_iff_prefix.1 fits)
  simp only [maxRank, none_left, List.isEmpty_iff, List.foldl_nil, Option.map_none,
    Option.getD_none]

end LogFilter

/-- Some directive decides, unless none fits. -/
theorem exists_decides (mem : d ∈ directives) (fits : d.target <+: target) :
    ∃ d, Decides directives target d := by
  induction directives generalizing d with
  | nil => exact absurd mem List.not_mem_nil
  | cons first rest ih =>
    by_cases later : ∃ d ∈ rest, d.target <+: target
    · obtain ⟨d, mem, fits⟩ := later
      obtain ⟨d, before, after, rfl, fits, short, shorter⟩ := ih mem fits
      by_cases longest : first.target <+: target ∧ d.target.length < first.target.length
      · refine ⟨first, [], before ++ d :: after, rfl, longest.1, by simp, ?_⟩
        intro a mem fits
        rcases List.mem_append.1 mem with mem | mem
        · exact Nat.lt_of_le_of_lt (short a mem fits) longest.2
        · rcases List.mem_cons.1 mem with rfl | mem
          · exact longest.2
          · exact Nat.lt_trans (shorter a mem fits) longest.2
      · refine ⟨d, first :: before, after, rfl, fits, ?_, shorter⟩
        intro b mem fits
        rcases List.mem_cons.1 mem with rfl | mem
        · exact Nat.not_lt.1 fun lt => longest ⟨fits, lt⟩
        · exact short b mem fits
    · rcases List.mem_cons.1 mem with rfl | mem
      · exact ⟨d, [], rest, rfl, fits, by simp, fun a mem fits => absurd ⟨a, mem, fits⟩ later⟩
      · exact absurd ⟨d, mem, fits⟩ later

/-! ## Entries -/

namespace LogFilter

/-- What stands behind a slash is a text, if it has no signs and no further slash. -/
theorem part_parse {directives s : List Char} (unbroken : '/' ∉ directives) (whole : '/' ∉ s)
    (plain : ∀ c ∈ s, isSign c = false) :
    (parse (String.ofList (directives ++ '/' :: s))).1.part = some (Pattern.plain s) := by
  rw [parse, String.toList_ofList, Text.cutAt_append unbroken, Text.cutAt_of_not_mem whole]
  simp only [Text.Pattern.Expression.read_plain plain]

theorem shows_iff (f : LogFilter) (e : Log.Entry) :
    f.shows e ↔ e.level.rank ≤ f.maxRank (targetOf e.source).toList ∧
      ∀ p, f.part = some p → ∃ i j, i ≤ e.text.toList.length ∧ p.Matches e.text.toList i j := by
  rw [shows, Bool.and_eq_true, decide_eq_true_iff, Option.all_eq_true]
  simp only [Pattern.occursIn_iff]

/-- Behind a slash, a text without signs tells what the entries have to contain. -/
theorem shows_parse_iff {directives s : List Char} (unbroken : '/' ∉ directives) (whole : '/' ∉ s)
    (plain : ∀ c ∈ s, isSign c = false) (e : Log.Entry) :
    let f := (parse (String.ofList (directives ++ '/' :: s))).1
    f.shows e ↔ e.level.rank ≤ f.maxRank (targetOf e.source).toList ∧ s <:+: e.text.toList := by
  intro f
  rw [shows, part_parse unbroken whole plain, Bool.and_eq_true, decide_eq_true_iff, Option.all_some,
    Pattern.occursIn_plain]

end LogFilter

end Testbed.CommandLine
