import Testbed.Rehearsal.Machine.Shell.Words
import Testbed.Shell.Quote
/-!
# Quoted words on a machine

The shell of a machine reads a quoted word as one word, piece by piece: what stands between quotes,
and the quotes that were escaped in between (`spelled`). A word that needs no quotes is one piece.

Main statement: `run_spelled`, the reader behind a quoted word.
-/
namespace Testbed.Rehearsal.Machine.Shell

open Parse
open Testbed.Shell (special escape quoteChars needsQuotes)

/-- The pieces of a quoted word. `front` are the characters behind the opening quote. -/
def spelledFrom (front : List Char) : List Char → Word
  | [] => [.quotes [.text front true]]
  | c :: rest =>
    if c = '\'' then .quotes [.text front true] :: .text [c] true :: spelledFrom [] rest
    else spelledFrom (front ++ [c]) rest

def spelled (word : List Char) : Word :=
  if needsQuotes word then spelledFrom [] word else [.text word false]

/-- A word that needs no quotes. -/
theorem harmless_of_bare {word : List Char} (bare : ¬ needsQuotes word) :
    word ≠ [] ∧ ∀ c ∈ word, c ∉ special := by
  simpa [needsQuotes] using bare

variable {w : Word} {cs : List Char}

theorem cons_spelledFrom (cs front word : List Char) (quoted : Bool) :
    (Piece.text cs quoted).cons (spelledFrom front word) =
      .text cs quoted :: spelledFrom front word := by
  induction word generalizing front with
  | nil => rfl
  | cons c word ih =>
    rw [spelledFrom]
    split
    · rfl
    · exact ih _

/-! ## Characters -/

/-- A source behind a character, but for what is left of it. -/
def Source.pass (s : Source) (c : Char) : Source :=
  if c = '\n' then { s with line := s.line + 1 + s.skipped, skipped := 0 } else s

def Source.past (s : Source) (cs rest : List Char) : Source := { cs.foldl Source.pass s with rest }

section Past

variable {s : Source} {c : Char} {rest : List Char}

theorem Source.pass_with (s : Source) (c : Char) (rest : List Char) :
    ({ s with rest } : Source).pass c = { s.pass c with rest } := by
  unfold Source.pass
  split <;> rfl

@[simp] theorem Source.rest_past : (s.past cs rest).rest = rest := rfl

theorem Source.past_past (s : Source) (cs ds rest rest' : List Char) :
    (s.past cs rest).past ds rest' = s.past (cs ++ ds) rest' := by
  have same (s : Source) : ds.foldl Source.pass { s with rest } =
      { ds.foldl Source.pass s with rest } := by
    induction ds generalizing s with
    | nil => rfl
    | cons d ds ih => rw [List.foldl_cons, Source.pass_with, ih, List.foldl_cons]
  rw [Source.past, Source.past, same, Source.past, List.foldl_append]

theorem run_take (next : s.rest = c :: rest) : take?.run s = pure (some c, s.past [c] rest) := by
  by_cases feed : c = '\n' <;> simp [take?, next, Source.past, Source.pass, feed]

theorem run_take_nil (none_left : s.rest = []) : take?.run s = pure (none, s) := by
  simp [take?, none_left]

theorem run_singleQuoted {fuel : Nat} (unbroken : '\'' ∉ cs) (enough : cs.length < fuel)
    (next : s.rest = cs ++ '\'' :: rest) :
    (singleQuoted fuel).run s = pure (cs, s.past (cs ++ ['\'']) rest) := by
  induction cs generalizing fuel s with
  | nil =>
    obtain ⟨fuel, rfl⟩ := Nat.exists_eq_succ_of_ne_zero (Nat.ne_of_gt enough)
    simp [singleQuoted, run_take next]
  | cons c cs ih =>
    obtain ⟨fuel, rfl⟩ := Nat.exists_eq_succ_of_ne_zero (Nat.ne_of_gt (Nat.zero_lt_of_lt enough))
    obtain ⟨other, unbroken⟩ := not_or.1 (mt List.mem_cons.2 unbroken)
    have goOn : (singleQuoted fuel).run (s.past [c] (cs ++ '\'' :: rest)) = _ :=
      ih unbroken (Nat.lt_of_succ_lt_succ enough) rfl
    rw [Source.past_past] at goOn
    rw [singleQuoted]
    simp only [bind_pure_comp, StateT.run_bind, run_take next, List.append_eq, pure_bind,
      List.cons_append]
    split
    · simp_all
    · simp_all
    · simp_all

/-! ## Words -/

variable {inner : Parse Script} {whole : List Char → Nat → Except SyntaxError Script} {fuel : Nat}

def Ends (rest : List Char) : Prop := rest = [] ∨ ∃ more, rest = ' ' :: more

theorem run_pieces_end (ends : Ends s.rest) :
    (pieces inner whole (fuel + 1) .word).run s = pure (([], false), s) := by
  rw [pieces.eq_def]
  rcases ends with nothing | ⟨more, blank⟩
  · simp [run_take_nil nothing]
  · obtain ⟨_, line, skipped, pushed, aliases, texts⟩ := s
    obtain rfl : _ = ' ' :: more := blank
    have taken := run_take (s := ⟨' ' :: more, line, skipped, pushed, aliases, texts⟩) rfl
    simp only [bind_pure_comp, pieces.giveBack, Char.reduceEq, if_false, Bool.or_eq_true,
      decide_eq_true_eq, StateT.run_bind, taken, pure_bind, imp_self, or_true, or_false]
    rfl

theorem run_pieces_plain (harmless : c ∉ special) (next : s.rest = c :: rest) {q : Bool}
    {s' : Source}
    (goOn : (pieces inner whole fuel .word).run (s.past [c] rest) = pure ((w, q), s')) :
    (pieces inner whole (fuel + 1) .word).run s =
      pure (((Piece.text [c] false).cons w, q), s') := by
  simp only [special, List.mem_cons, List.not_mem_nil, or_false, not_or] at harmless
  rw [pieces.eq_def]
  simp only [bind_pure_comp, Bool.or_eq_true, decide_eq_true_eq, StateT.run_bind, run_take next,
    pure_bind]
  split <;> simp_all [isOperatorChar, Mode.isQuoted]

theorem run_pieces_escaped (other : c ≠ '\n') (next : s.rest = '\\' :: c :: rest) {q : Bool}
    {s' : Source}
    (goOn : (pieces inner whole fuel .word).run (s.past ['\\', c] rest) = pure ((w, q), s')) :
    (pieces inner whole (fuel + 1) .word).run s =
      pure (((Piece.text [c] true).cons w, true), s') := by
  have taken : take?.run (s.past ['\\'] (c :: rest)) = pure (some c, s.past ['\\', c] rest) := by
    rw [run_take rfl, Source.past_past]
    rfl
  rw [pieces.eq_def]
  simp [run_take next, Mode.escapes, taken, goOn]

theorem run_pieces_quotes (unbroken : '\'' ∉ cs) (next : s.rest = '\'' :: (cs ++ '\'' :: rest))
    {q : Bool} {s' : Source}
    (goOn : (pieces inner whole fuel .word).run (s.past ('\'' :: (cs ++ ['\''])) rest) =
      pure ((w, q), s')) :
    (pieces inner whole (fuel + 1) .word).run s =
      pure ((.quotes [.text cs true] :: w, true), s') := by
  have enough : cs.length < (cs ++ '\'' :: rest).length + 1 := by
    rw [List.length_append]
    omega
  have taken : (singleQuoted ((cs ++ '\'' :: rest).length + 1)).run
      (s.past ['\''] (cs ++ '\'' :: rest)) = pure (cs, s.past ('\'' :: (cs ++ ['\''])) rest) := by
    rw [run_singleQuoted unbroken enough rfl, Source.past_past]
    rfl
  rw [pieces.eq_def]
  simp only [Mode.isQuoted, bind_pure_comp, Bool.false_eq_true, if_false, StateT.run_bind,
    run_take next, pure_bind, StateT.run_get, StateT.run_map, Source.rest_past, taken, goOn,
    map_pure]
  rfl

/-- A word in quotes. -/
theorem run_spelledFrom {word front : List Char} (unbroken : '\'' ∉ front)
    (next : s.rest = '\'' :: (front ++ (escape word ++ '\'' :: rest))) (ends : Ends rest)
    (enough : 2 * word.length + 2 ≤ fuel) :
    (pieces inner whole fuel .word).run s =
      pure ((spelledFrom front word, true),
        s.past ('\'' :: (front ++ (escape word ++ ['\'']))) rest) := by
  induction word generalizing front fuel s with
  | nil =>
    obtain ⟨fuel, rfl⟩ := Nat.exists_eq_add_of_le' enough
    exact run_pieces_quotes unbroken next (run_pieces_end ends)
  | cons c word ih =>
    by_cases quote : c = '\''
    · -- The quotes are closed, the quote is escaped, and the quotes are opened again.
      subst quote
      obtain ⟨fuel, rfl⟩ : ∃ n, fuel = n + 1 + 1 := ⟨fuel - 2, by omega⟩
      rw [escape, List.cons_append] at next
      have enough : 2 * word.length + 2 ≤ fuel := by
        rw [List.length_cons] at enough
        omega
      have inside := ih (s := s.past ('\'' :: (front ++ ['\''] ++ ['\\', '\'']))
        ('\'' :: (escape word ++ '\'' :: rest))) List.not_mem_nil rfl enough
      have behind := run_pieces_escaped (s := s.past ('\'' :: (front ++ ['\'']))
        ('\\' :: '\'' :: '\'' :: (escape word ++ '\'' :: rest))) (by decide) rfl
        (by rw [Source.past_past]; exact inside)
      rw [run_pieces_quotes unbroken next behind, Source.past_past, spelledFrom, if_pos rfl, escape,
        cons_spelledFrom]
      simp
    · have next : s.rest = '\'' :: (front ++ [c] ++ (escape word ++ '\'' :: rest)) := by
        simp [next, escape]
      have unbroken : '\'' ∉ front ++ [c] := by
        simp [unbroken, Ne.symm quote]
      have enough : 2 * word.length + 2 ≤ fuel := by
        rw [List.length_cons] at enough
        omega
      rw [ih unbroken next enough, spelledFrom, if_neg quote]
      simp [escape]

/-- A word that needs no quotes. -/
theorem run_bare {c : Char} {word : List Char} (harmless : ∀ d ∈ c :: word, d ∉ special)
    (next : s.rest = c :: (word ++ rest)) (ends : Ends rest) (enough : word.length + 1 < fuel) :
    (pieces inner whole fuel .word).run s =
      pure (([.text (c :: word) false], false), s.past (c :: word) rest) := by
  induction word generalizing c fuel s with
  | nil =>
    obtain ⟨fuel, rfl⟩ := Nat.exists_eq_add_of_le' enough
    exact run_pieces_plain (harmless c (List.mem_cons_self ..)) next (run_pieces_end ends)
  | cons d word ih =>
    obtain ⟨fuel, rfl⟩ := Nat.exists_eq_succ_of_ne_zero (Nat.ne_of_gt (Nat.zero_lt_of_lt enough))
    have others := ih (s := s.past [c] (d :: (word ++ rest)))
      (fun e mem => harmless e (List.mem_cons_of_mem _ mem)) rfl (Nat.lt_of_succ_lt_succ enough)
    rw [run_pieces_plain (harmless c (List.mem_cons_self ..)) next others, Source.past_past]
    rfl

theorem run_spelled {word : List Char} (next : s.rest = quoteChars word ++ rest) (ends : Ends rest)
    (enough : 2 * word.length + 2 ≤ fuel) :
    (pieces inner whole fuel .word).run s =
      pure ((spelled word, needsQuotes word), s.past (quoteChars word) rest) := by
  by_cases quoted : needsQuotes word
  · rw [quoteChars, if_pos quoted] at next ⊢
    rw [spelled, if_pos quoted, quoted]
    exact run_spelledFrom List.not_mem_nil (by simpa using next) ends enough
  · rw [quoteChars, if_neg quoted] at next ⊢
    rw [spelled, if_neg quoted, Bool.eq_false_iff.2 quoted]
    obtain ⟨some_char, harmless⟩ := harmless_of_bare quoted
    obtain ⟨c, word, rfl⟩ := List.exists_cons_of_ne_nil some_char
    rw [List.length_cons] at enough
    exact run_bare harmless next ends (by omega)

end Past

end Testbed.Rehearsal.Machine.Shell
