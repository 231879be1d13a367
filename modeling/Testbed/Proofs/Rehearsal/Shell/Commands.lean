import Mathlib.Data.List.TakeWhile
import Testbed.Proofs.Rehearsal.Shell.Words
import Testbed.Proofs.Shell.Quoting
import Testbed.Rehearsal.Machine.Shell.Reader
/-!
# Lines of quoted words on a machine

Behind its first word a line of quoted words goes on with a blank and the next word, up to its end.
None of the words is an operator, a comment or a redirection, and none sets a variable; only a
keyword has to be quoted where a command begins.

Main statement: `next_joinChars`, the line is one command of these words.
-/
namespace Testbed.Rehearsal.Machine.Shell

open Parse
open Testbed.Shell (special escape quoteChars joinChars joinChars_cons needsQuotes)

variable {s : Source} {c : Char} {rest : List Char} {fuel : Nat}

/-! ## Tokens -/

theorem run_peek (other : s.rest.head? ≠ some '\\') : peek?.run s = pure (s.rest.head?, s) := by
  have same (fuel : Nat) : peek?.joined fuel s = s := by
    cases fuel with
    | zero => rfl
    | succ fuel =>
      rw [peek?.joined]
      split
      · next joins => simp [joins] at other
      · rfl
  simp [peek?, same]

/-- The first character of a quoted word. -/
def Begins (c : Char) : Prop := c ∉ special ∨ c = '\''

theorem Begins.ne {d : Char} (begins : Begins c) (meant : d ∈ special) (other : d ≠ '\'') :
    c ≠ d := by
  rintro rfl
  exact begins.elim (absurd meant) other

theorem exists_quoteChars (word : List Char) :
    ∃ c rest, quoteChars word = c :: rest ∧ Begins c := by
  by_cases quoted : needsQuotes word
  · exact ⟨'\'', _, by rw [quoteChars, if_pos quoted]; rfl, .inr rfl⟩
  · obtain ⟨some_char, harmless⟩ := harmless_of_bare quoted
    obtain ⟨c, word, rfl⟩ := List.exists_cons_of_ne_nil some_char
    exact ⟨c, word, by rw [quoteChars, if_neg quoted], .inl (harmless c (List.mem_cons_self ..))⟩

theorem length_le_escape (word : List Char) : word.length ≤ (escape word).length := by
  fun_induction escape word with
  | case1 => exact Nat.le_refl _
  | case2 word ih =>
    simp only [List.length_cons]
    omega
  | case3 c word other ih => exact Nat.succ_le_succ ih

theorem length_le_quoteChars (word : List Char) : word.length ≤ (quoteChars word).length := by
  have := length_le_escape word
  rw [quoteChars]
  split
  · simp only [List.cons_append, List.length_cons, List.length_append]
    omega
  · exact Nat.le_refl _

theorem run_skipBlanks_word (begins : Begins c) (next : s.rest = c :: rest) :
    (skipBlanks fuel).run s = pure ((), s) := by
  cases fuel with
  | zero => rfl
  | succ fuel =>
    have other : s.rest.head? ≠ some '\\' := by
      rw [next]
      exact fun same => begins.ne (by decide) (by decide) (Option.some.inj same)
    rw [skipBlanks]
    simp only [StateT.run_bind, run_peek other, next, List.head?_cons, pure_bind]
    split
    · next same => exact absurd same (by simpa using begins.ne (by decide) (by decide))
    · next same => exact absurd same (by simpa using begins.ne (by decide) (by decide))
    · next same => exact absurd same (by simpa using begins.ne (by decide) (by decide))
    · rfl

theorem run_skipBlanks_blank (begins : Begins c) (next : s.rest = ' ' :: c :: rest) :
    (skipBlanks (fuel + 1)).run s = pure ((), s.past [' '] (c :: rest)) := by
  have other : s.rest.head? ≠ some '\\' := by simp [next]
  have goOn : (skipBlanks fuel).run (s.past [' '] (c :: rest)) = _ :=
    run_skipBlanks_word begins rfl
  rw [skipBlanks]
  simp only [StateT.run_bind, run_peek other, next, List.head?_cons, pure_bind, run_take next, goOn]

theorem run_skipBlanks_end (nothing : s.rest = []) : (skipBlanks fuel).run s = pure ((), s) := by
  cases fuel with
  | zero => rfl
  | succ fuel =>
    rw [skipBlanks]
    simp [run_peek, nothing]

theorem run_rawToken_end {r : Readers} (nothing : s.rest = []) :
    (rawToken r).run s = pure (.finish, s) := by
  rw [rawToken]
  simp [run_skipBlanks_end nothing, run_peek, nothing]

/-- A word that begins with a digit is not taken for a redirection. -/
theorem not_numbered {word more : List Char} (ends : Ends rest)
    (same : quoteChars word ++ rest = c :: more) :
    (c.isDigit && (more[0]?).any fun d => d = '<' || d = '>') = false := by
  by_cases quoted : needsQuotes word
  · rw [quoteChars, if_pos quoted] at same
    obtain ⟨rfl, -⟩ := List.cons.inj same
    rfl
  · obtain ⟨some_char, harmless⟩ := harmless_of_bare quoted
    obtain ⟨d, word, rfl⟩ := List.exists_cons_of_ne_nil some_char
    rw [quoteChars, if_neg quoted] at same
    obtain ⟨rfl, rfl⟩ := List.cons.inj same
    -- Behind the digit stands the rest of the word or a blank.
    cases word with
    | nil => rcases ends with rfl | ⟨more, rfl⟩ <;> simp
    | cons e word =>
      have other := harmless e (List.mem_cons_of_mem _ (List.mem_cons_self ..))
      simp only [special, List.mem_cons, List.not_mem_nil, or_false, not_or] at other
      simp [other]

theorem run_rawToken_word {r : Readers} {word : List Char} (next : s.rest = quoteChars word ++ rest)
    (ends : Ends rest) :
    (rawToken r).run s =
      pure (.word (spelled word) (needsQuotes word), s.past (quoteChars word) rest) := by
  obtain ⟨c, more, same, begins⟩ : ∃ c more, quoteChars word ++ rest = c :: more ∧ Begins c := by
    obtain ⟨c, more, same, begins⟩ := exists_quoteChars word
    exact ⟨c, more ++ rest, by rw [same, List.cons_append], begins⟩
  have start : s.rest = c :: more := next.trans same
  have other : s.rest.head? ≠ some '\\' := by
    rw [start]
    exact fun same => begins.ne (by decide) (by decide) (Option.some.inj same)
  have enough : 2 * word.length + 2 ≤ 2 * s.rest.length + 2 := by
    have := length_le_quoteChars word
    rw [next, List.length_append]
    omega
  rw [rawToken]
  simp only [StateT.run_bind, StateT.run_get, pure_bind, run_skipBlanks_word begins start,
    run_peek other]
  simp only [start, List.head?_cons]
  split
  case h_1 => next same => cases same
  case h_10 =>
    next first =>
      obtain rfl := Option.some.inj first
      have bare := not_numbered ends same
      have taken : (pieces r.inner r.whole (2 * s.rest.length + 2) .word).run s = _ :=
        run_spelled next ends enough
      rw [start] at taken
      simp only [StateT.run_bind, StateT.run_get, pure_bind, start, List.getElem?_cons_succ, bare,
        Bool.false_eq_true, if_false, taken]
      rfl
  all_goals
    next same => exact absurd (Option.some.inj same) (begins.ne (by decide) (by decide))

theorem run_skipBlanks_gap {gap : List Char} (narrow : gap = [] ∨ gap = [' ']) (begins : Begins c)
    (next : s.rest = gap ++ c :: rest) :
    (skipBlanks (fuel + 1)).run s = pure ((), s.past gap (c :: rest)) := by
  rcases narrow with rfl | rfl
  · obtain ⟨_, line, skipped, pushed, aliases, texts⟩ := s
    obtain rfl : _ = c :: rest := next
    exact run_skipBlanks_word begins rfl
  · exact run_skipBlanks_blank begins next

/-- A source in which nothing was given back, and where names stand for themselves. -/
structure Source.Fresh (s : Source) : Prop where
  pushed : s.pushed = none
  aliases : s.aliases = []
  texts : s.texts = []

theorem Source.Fresh.past (fresh : s.Fresh) (cs rest : List Char) : (s.past cs rest).Fresh := by
  induction cs generalizing s with
  | nil => exact ⟨fresh.pushed, fresh.aliases, fresh.texts⟩
  | cons c cs ih =>
    refine ih (s := s.pass c) ?_
    unfold Source.pass
    split
    · exact ⟨fresh.pushed, fresh.aliases, fresh.texts⟩
    · exact fresh

theorem run_aliased {r : Readers} {s' s'' : Source} {t : Token} (words aliases : Bool)
    (skipped : (skipBlanks (s.rest.length + 1)).run s = pure ((), s')) (fresh : s'.Fresh)
    (read : (rawToken r).run s' = pure (t, s'')) :
    (aliased r words (fuel + 1) aliases).run s = pure (t, s'') := by
  obtain ⟨rest', line, skips, pushed, names, texts⟩ := s'
  obtain ⟨rfl, rfl, rfl⟩ := fresh
  have no_texts (p : AliasText → Bool) : List.partition p [] = ([], []) := rfl
  rw [aliased]
  simp only [StateT.run_bind, StateT.run_get, StateT.run_set, pure_bind, skipped, no_texts, read,
    List.lookup_nil, ite_self]
  cases t.plain? <;> rfl

theorem run_aliased_word {r : Readers} {gap word : List Char} (narrow : gap = [] ∨ gap = [' '])
    (fresh : s.Fresh) (words aliases : Bool) (next : s.rest = gap ++ (quoteChars word ++ rest))
    (ends : Ends rest) :
    (aliased r words (fuel + 1) aliases).run s =
      pure (.word (spelled word) (needsQuotes word), s.past (gap ++ quoteChars word) rest) := by
  obtain ⟨c, more, same, begins⟩ := exists_quoteChars word
  have skipped : (skipBlanks (s.rest.length + 1)).run s =
      pure ((), s.past gap (quoteChars word ++ rest)) := by
    rw [same, List.cons_append] at next ⊢
    exact run_skipBlanks_gap narrow begins next
  rw [run_aliased words aliases skipped (fresh.past ..) (run_rawToken_word rfl ends),
    Source.past_past]

theorem run_aliased_end {r : Readers} (fresh : s.Fresh) (words aliases : Bool)
    (nothing : s.rest = []) :
    (aliased r words (fuel + 1) aliases).run s = pure (.finish, s) :=
  run_aliased words aliases (run_skipBlanks_end nothing) fresh (run_rawToken_end nothing)

/-- A token that is read as itself. -/
structure Token.Steady (t : Token) (words : Bool) : Prop where
  line : t ≠ .newline
  keyword : ∀ text, t.plain? = some text → words = true → text ∉ keywords

theorem beyond_steady {lines words : Bool} {t : Token} (steady : t.Steady words)
    (fresh : Parse Token) : token.beyond lines fresh fuel t = pure t := by
  cases fuel with
  | zero => rfl
  | succ fuel => rw [token.beyond.eq_3 _ _ _ _ steady.line]

/-- The next token is the one that was given back, or the next of the text. -/
theorem run_token_of {r : Readers} {s' : Source} {t : Token} {lines words : Bool}
    (steady : t.Steady words)
    (first : s.pushed = some t ∧ { s with pushed := none } = s' ∨
      s.pushed = none ∧ (aliased r words (s.aliases.length + 1) words).run s = pure (t, s')) :
    (token r lines words).run s = pure (t, s') := by
  rw [token]
  rcases first with ⟨pushed, rfl⟩ | ⟨fresh, read⟩
  case' inl => simp only [pure_bind, StateT.run_bind, StateT.run_get, StateT.run_set, pushed]
  case' inr => simp only [StateT.run_bind, StateT.run_get, pure_bind, fresh, read]
  all_goals
    rw [beyond_steady steady]
    cases plain : t.plain? with
    | none => simp [plain]
    | some text =>
      have no : ¬ (words = true ∧ text ∈ keywords) := fun both =>
        steady.keyword text plain both.1 both.2
      simp [plain, no]

theorem steady_finish (words : Bool) : Token.finish.Steady words where
  line same := by cases same
  keyword _ plain := by cases plain

/-- A word that is a keyword has to be quoted where a command begins. -/
theorem steady_spelled {words : Bool} {word : List Char}
    (bare : words = true → String.ofList word ∉ keywords) :
    (Token.word (spelled word) (needsQuotes word)).Steady words := by
  refine ⟨(by intro same; cases same), fun text plain keyword => ?_⟩
  by_cases quoted : needsQuotes word
  · rw [quoted] at plain
    cases plain
  · rw [Bool.eq_false_iff.2 quoted, spelled, if_neg quoted] at plain
    obtain rfl : String.ofList word = text := by simpa [Token.plain?, plainText?] using plain
    exact bare keyword

/-! ## Commands -/

theorem assignment?_spelledFrom (front word : List Char) :
    assignment? (spelledFrom front word) = none := by
  induction word generalizing front with
  | nil => rfl
  | cons c word ih =>
    rw [spelledFrom]
    split
    · rfl
    · exact ih _

/-- A word with an equals sign is quoted, and so does not set a variable. -/
theorem assignment?_spelled (word : List Char) : assignment? (spelled word) = none := by
  by_cases quoted : needsQuotes word
  · rw [spelled, if_pos quoted]
    exact assignment?_spelledFrom [] word
  · have absent : '=' ∉ word := fun mem => (harmless_of_bare quoted).2 '=' mem (by decide)
    have no_value : word.dropWhile (· ≠ '=') = [] :=
      List.dropWhile_eq_nil_iff.2 fun c mem => decide_eq_true fun same => absent (same ▸ mem)
    rw [spelled, if_neg quoted, assignment?, no_value]

/-- The words of a line behind the first. -/
def behind (words : List (List Char)) : List Char := words.flatMap (' ' :: quoteChars ·)

theorem ends_behind (words : List (List Char)) : Ends (behind words) := by
  cases words with
  | nil => exact .inl rfl
  | cons word words => exact .inr ⟨_, rfl⟩

def Source.ended (s : Source) : Source := { s with pushed := some .finish }

theorem run_simple (r : Readers) (command : Parse Script) (line : Nat) {p : Parts}
    {words : List (List Char)} (fresh : s.Fresh) (next : s.rest = behind words)
    (enough : words.length < fuel) :
    (simple r command line fuel p).run s =
      pure (.simple line p.assignments (p.words ++ words.map spelled) p.redirects,
        (s.past (behind words) []).ended) := by
  induction words generalizing fuel s p with
  | nil =>
    obtain ⟨fuel, rfl⟩ := Nat.exists_eq_succ_of_ne_zero (Nat.ne_of_gt enough)
    have token : (token r false false).run s = pure (.finish, s) :=
      run_token_of (steady_finish false) (.inr ⟨fresh.pushed, run_aliased_end fresh _ _ next⟩)
    obtain ⟨_, at_, skipped, pushed, names, texts⟩ := s
    obtain rfl : _ = [] := next
    rw [simple.eq_def]
    simp only [StateT.run_bind, token, pure_bind, List.map_nil, List.append_nil]
    rfl
  | cons word words ih =>
    obtain ⟨fuel, rfl⟩ := Nat.exists_eq_succ_of_ne_zero (Nat.ne_of_gt (Nat.zero_lt_of_lt enough))
    have next : s.rest = [' '] ++ (quoteChars word ++ behind words) := next
    have token : (token r false false).run s = pure (.word (spelled word) (needsQuotes word),
        s.past (' ' :: quoteChars word) (behind words)) :=
      run_token_of (steady_spelled (by simp))
        (.inr ⟨fresh.pushed, run_aliased_word (.inr rfl) fresh _ _ next (ends_behind words)⟩)
    rw [simple.eq_def]
    have goOn := ih (s := s.past (' ' :: quoteChars word) (behind words))
      (p := { p with words := p.words ++ [spelled word] }) (fresh.past _ _) rfl
      (Nat.lt_of_succ_lt_succ enough)
    rw [Source.past_past, List.append_assoc] at goOn
    have same : behind (word :: words) = ' ' :: quoteChars word ++ behind words := rfl
    simp only [StateT.run_bind, token, pure_bind, assignment?_spelled, same, List.map_cons]
    split
    · next set_ => cases set_
    · exact goOn

def plainly (line : Nat) (words : List (List Char)) : Script :=
  .simple line [] (words.map spelled) []

/-- A source whose first word was given back. -/
def Source.begun (s : Source) (word : List Char) : Source :=
  { s with pushed := some (.word (spelled word) (needsQuotes word)) }

section Line

variable {word : List Char} {words : List (List Char)} (fresh : s.Fresh)
  (next : s.rest = behind words) (bare : String.ofList word ∉ keywords)

include fresh bare in
/-- The word that was given back is read again. -/
theorem run_token_begun (r : Readers) (lines keyed : Bool) :
    (token r lines keyed).run (s.begun word) =
      pure (.word (spelled word) (needsQuotes word), s) := by
  refine run_token_of (steady_spelled fun _ => bare) (.inl ⟨rfl, ?_⟩)
  obtain ⟨rest, line, skipped, pushed, names, texts⟩ := s
  obtain rfl : pushed = none := fresh.pushed
  rfl

theorem run_token_ended (fresh : s.Fresh) (r : Readers) (lines keyed : Bool) :
    (token r lines keyed).run s.ended = pure (.finish, s) := by
  refine run_token_of (steady_finish keyed) (.inl ⟨rfl, ?_⟩)
  obtain ⟨rest, line, skipped, pushed, names, texts⟩ := s
  obtain rfl : pushed = none := fresh.pushed
  rfl

theorem run_push_word (s : Source) (word : List Char) :
    (push (.word (spelled word) (needsQuotes word))).run s = pure ((), s.begun word) := rfl

theorem run_push_finish (s : Source) : (push .finish).run s = pure ((), s.ended) := rfl

theorem length_le_behind (words : List (List Char)) : words.length ≤ (behind words).length := by
  induction words with
  | nil => exact Nat.le_refl _
  | cons word words ih =>
    rw [behind, List.flatMap_cons, List.length_append, List.length_cons, List.length_cons, ← behind]
    omega

include fresh next bare

theorem run_oneCommand (depth : Nat) :
    (oneCommand (depth + 1)).run (s.begun word) =
      pure (plainly s.line (word :: words), (s.past (behind words) []).ended) := by
  have enough : words.length + 1 < (s.begun word).fuel := by
    have := length_le_behind words
    simp only [Source.fuel, Source.begun, next, fresh.aliases, List.foldl_nil]
    omega
  obtain ⟨fuel, more⟩ := Nat.exists_eq_succ_of_ne_zero (Nat.ne_of_gt (Nat.zero_lt_of_lt enough))
  rw [more] at enough
  have begun := run_token_begun fresh bare
  have goOn (r : Readers) (command : Parse Script) :
      (simple r command s.line (fuel + 1) {}).run (s.begun word) =
        pure (plainly s.line (word :: words), (s.past (behind words) []).ended) := by
    have rest := run_simple r command s.line (p := { words := [spelled word] }) fresh next
      (Nat.lt_of_succ_lt_succ enough)
    rw [simple.eq_def]
    simp only [StateT.run_bind, begun, pure_bind, assignment?_spelled]
    exact rest
  rw [oneCommand.eq_def]
  simp only [command, pure_bind, StateT.run_bind, StateT.run_get, begun, more]
  exact goOn _ _

theorem run_pipeline (depth : Nat) (r : Readers) (fuel : Nat) :
    (pipeline r (oneCommand (depth + 1)) (fuel + 1)).run (s.begun word) =
      pure (plainly s.line (word :: words), (s.past (behind words) []).ended) := by
  have one := run_oneCommand fresh next bare depth
  have finish := run_token_ended (fresh.past (behind words) []) r
  have staged : (stages r (oneCommand (depth + 1)) (fuel + 1)).run (s.begun word) =
      pure ([plainly s.line (word :: words)], (s.past (behind words) []).ended) := by
    rw [stages]
    simp [one, finish, run_push_finish]
  rw [pipeline]
  simp [run_token_begun fresh bare, run_push_word, staged]

theorem run_andOr (depth : Nat) (r : Readers) (fuel : Nat) :
    (andOr r (pipeline r (oneCommand (depth + 1)) (fuel + 1)) (fuel + 1) none).run (s.begun word) =
      pure (plainly s.line (word :: words), (s.past (behind words) []).ended) := by
  have line := run_pipeline fresh next bare depth r fuel
  have finish := run_token_ended (fresh.past (behind words) []) r
  rw [andOr]
  simp [line, finish, run_push_finish]

end Line

/-- The line that begins with a word behind a source. -/
theorem run_list {word : List Char} {words : List (List Char)} (fresh : s.Fresh)
    (next : s.rest = quoteChars word ++ behind words) (bare : String.ofList word ∉ keywords)
    (r : Readers) (fuel : Nat) :
    ∃ (line : Nat) (rest : Source), rest.Fresh ∧
      (list r (andOr r (pipeline r (oneCommand depth) (fuel + 1)) (fuel + 1) none) .line (fuel + 1)
        none).run s = pure (some (plainly line (word :: words)), rest.ended) := by
  have first : (token r false true).run s =
      pure (.word (spelled word) (needsQuotes word), s.past (quoteChars word) (behind words)) :=
    run_token_of (steady_spelled fun _ => bare)
      (.inr ⟨fresh.pushed, run_aliased_word (.inl rfl) fresh _ _ next (ends_behind words)⟩)
  have begun := fresh.past (quoteChars word) (behind words)
  have ended := begun.past (behind words) []
  have line := run_andOr begun rfl bare 999 r fuel
  refine ⟨(s.past (quoteChars word) (behind words)).line, _, ended, ?_⟩
  rw [list.eq_def]
  simp [first, run_push_word, depth, line, run_token_ended ended, run_push_finish]

theorem joinChars_eq (word : List Char) (words : List (List Char)) :
    joinChars (word :: words) = quoteChars word ++ behind words := by
  induction words generalizing word with
  | nil => simp [joinChars, Text.joinBy, behind]
  | cons next words ih =>
    rw [joinChars_cons word (List.cons_ne_nil _ _), ih next]
    rfl

theorem exists_fuel_eq_succ (bare : s.aliases = []) : ∃ fuel, s.fuel = fuel + 1 := by
  refine Nat.exists_eq_succ_of_ne_zero ?_
  simp only [Source.fuel, bare, List.foldl_nil]
  omega

theorem next_ended (fresh : s.Fresh) : s.ended.next = .ok .finish := by
  obtain ⟨fuel, more⟩ := exists_fuel_eq_succ (s := s.ended) fresh.aliases
  have nothing (r : Readers) (command : Parse Script) :
      (list r command .line (fuel + 1) none).run s.ended = pure (none, s.ended) := by
    rw [list.eq_def]
    simp [run_token_ended fresh, run_push_finish]
  rw [Source.next]
  simp only [more, nothing, pure_bind]
  rfl

/-- **A line of quoted words is one command of these words, and nothing else.** -/
theorem next_joinChars {word : List Char} (words : List (List Char))
    (bare : String.ofList word ∉ keywords) :
    ∃ line rest, Source.next { rest := joinChars (word :: words) } =
      .ok (.script (plainly line (word :: words)) rest) ∧ rest.next = .ok .finish := by
  have fresh : ({ rest := joinChars (word :: words) } : Source).Fresh := ⟨rfl, rfl, rfl⟩
  have next : ({ rest := joinChars (word :: words) } : Source).rest = _ := joinChars_eq word words
  generalize ({ rest := joinChars (word :: words) } : Source) = s at fresh next
  obtain ⟨fuel, more⟩ := exists_fuel_eq_succ fresh.aliases
  obtain ⟨line, rest, ended, all⟩ := run_list fresh next bare (readers depth) fuel
  refine ⟨line, rest.ended, ?_, next_ended ended⟩
  rw [Source.next]
  simp only [more, all, pure_bind]
  rfl

end Testbed.Rehearsal.Machine.Shell
