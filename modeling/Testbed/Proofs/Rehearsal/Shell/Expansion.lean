import Testbed.Proofs.Rehearsal.Shell.Commands
import Testbed.Rehearsal.Machine.Shell.Expansion
/-!
# What quoted words come to

The pieces of a quoted word become characters at which no field is cut, and which are no wildcards
unless they were quoted. So each word of a line comes to one text, which is the word that was
quoted, whatever the variables of the shell are; no file is looked at and nothing else is asked of
the machine.

Main statement: `reads_joinWords`, what `split_joinWords` says of the reader of lines: this shell
takes a line of quoted words for one command of these words.
-/
namespace Testbed.Rehearsal.Machine.Shell

open Sh
open Testbed.Shell (special needsQuotes joinWords)

/-! ## Home directories -/

theorem tildesIn_of_absent (s : State) {cs : List Char} (absent : '~' ∉ cs)
    (colons last start : Bool) {fuel : Nat} (enough : cs.length < fuel) :
    tildesIn s colons last fuel start cs = if cs = [] then [] else [.text cs false] := by
  induction cs generalizing fuel start with
  | nil =>
    obtain ⟨fuel, rfl⟩ := Nat.exists_eq_succ_of_ne_zero (Nat.ne_of_gt enough)
    rfl
  | cons c cs ih =>
    obtain ⟨fuel, rfl⟩ := Nat.exists_eq_succ_of_ne_zero (Nat.ne_of_gt (Nat.zero_lt_of_lt enough))
    obtain ⟨other, absent⟩ := not_or.1 (mt List.mem_cons.2 absent)
    rw [tildesIn]
    simp only [Ne.symm other, decide_false, Bool.and_false, Bool.false_eq_true, if_false,
      ih absent (colons && c = ':') (Nat.lt_of_succ_lt_succ enough), reduceCtorEq]
    split
    · next none => rw [none]; rfl
    · rfl

theorem tildes_spelledFrom (s : State) (colons start : Bool) (front word : List Char) :
    tildes.go s colons start (spelledFrom front word) = spelledFrom front word := by
  induction word generalizing front start with
  | nil => rfl
  | cons c word ih =>
    rw [spelledFrom]
    split
    · simp [tildes.go, ih]
    · exact ih ..

theorem tildes_spelled (s : State) (word : List Char) :
    tildes s false (spelled word) = spelled word := by
  by_cases quoted : needsQuotes word
  · rw [spelled, if_pos quoted]
    exact tildes_spelledFrom ..
  · obtain ⟨some_char, harmless⟩ := harmless_of_bare quoted
    have absent : '~' ∉ word := fun mem => harmless '~' mem (by decide)
    rw [spelled, if_neg quoted, tildes, tildes.go]
    simp [tildesIn_of_absent s absent, some_char, tildes.go]

/-! ## Bits -/

/-- The bits of the pieces of a quoted word. -/
def bitsFrom (front : List Char) : List Char → List Bit
  | [] => .mark :: bitsOf true false front
  | c :: rest =>
    if c = '\'' then .mark :: bitsOf true false front ++ .char c true false :: bitsFrom [] rest
    else bitsFrom (front ++ [c]) rest

def bitsSpelled (word : List Char) : List Bit :=
  if needsQuotes word then bitsFrom [] word else bitsOf false false word

section Pieces

variable (r : Runner) (cs : List Char) (w : Word) (fuel : Nat)

theorem expandPieces_nil (place : Place) : expandPieces r fuel place [] = pure [] := by
  rw [expandPieces.eq_def]
  cases fuel <;> rfl

theorem expandPieces_text (quoted : Bool) :
    expandPieces r (fuel + 1) {} (.text cs quoted :: w) =
      (do return bitsOf quoted false cs ++ (← expandPieces r fuel {} w)) := by
  rw [expandPieces.eq_def]
  simp

theorem expandPieces_quotes :
    expandPieces r (fuel + 2) {} (.quotes [.text cs true] :: w) =
      (do return (.mark :: bitsOf true false cs) ++ (← expandPieces r (fuel + 1) {} w)) := by
  have inside (place : Place) :
      expandPieces r (fuel + 1) place [.text cs true] = pure (bitsOf true false cs) := by
    rw [expandPieces.eq_def]
    simp [expandPieces_nil]
  rw [expandPieces.eq_def]
  simp [inside]

end Pieces

theorem expandPieces_spelledFrom (r : Runner) (front word : List Char) {fuel : Nat}
    (enough : (spelledFrom front word).length < fuel) :
    expandPieces r fuel {} (spelledFrom front word) = pure (bitsFrom front word) := by
  induction word generalizing front fuel with
  | nil =>
    obtain ⟨fuel, rfl⟩ := Nat.exists_eq_add_of_le' (Nat.succ_le_of_lt enough)
    simp [spelledFrom, expandPieces_quotes, expandPieces_nil, bitsFrom]
  | cons c word ih =>
    rw [spelledFrom, bitsFrom]
    by_cases quote : c = '\''
    · simp only [spelledFrom, quote, if_true, List.length_cons] at enough
      obtain ⟨fuel, rfl⟩ : ∃ n, fuel = n + 2 := ⟨fuel - 2, by omega⟩
      have more : (spelledFrom [] word).length < fuel := by omega
      simp [quote, expandPieces_quotes, expandPieces_text, ih [] more, bitsOf]
    · simp only [spelledFrom, quote, if_false] at enough
      simp [quote, ih _ enough]

theorem expandPieces_spelled (r : Runner) {word : List Char} {fuel : Nat}
    (enough : (spelled word).length < fuel) :
    expandPieces r fuel {} (spelled word) = pure (bitsSpelled word) := by
  by_cases quoted : needsQuotes word
  · rw [spelled, if_pos quoted] at enough ⊢
    rw [bitsSpelled, if_pos quoted, expandPieces_spelledFrom r [] word enough]
  · obtain ⟨fuel, rfl⟩ := Nat.exists_eq_succ_of_ne_zero (Nat.ne_of_gt (Nat.zero_lt_of_lt enough))
    rw [spelled, if_neg quoted, bitsSpelled, if_neg quoted, expandPieces_text, expandPieces_nil]
    simp

/-! ## Fields -/

/-- A bit at which no field is cut. -/
def Bit.Whole : Bit → Prop
  | .char _ _ splits => splits = false
  | .gap => False
  | .mark => True

def charsIn (bits : List Bit) : Field := bits.filterMap fun
  | .char c quoted _ => some (c, quoted)
  | _ => none

theorem foldl_step (separators : List Char) {bits : List Bit} (whole : ∀ b ∈ bits, b.Whole)
    (c : Cutting) :
    bits.foldl (Cutting.step separators) c =
      { done := c.done, field := (charsIn bits).reverse ++ c.field,
        begun := c.begun || !bits.isEmpty, blank := c.blank && bits.isEmpty } := by
  induction bits generalizing c with
  | nil => simp [charsIn]
  | cons b bits ih =>
    rw [List.foldl_cons, ih fun b mem => whole b (List.mem_cons_of_mem _ mem)]
    have first := whole b (List.mem_cons_self ..)
    cases b with
    | char ch quoted splits =>
      obtain rfl : splits = false := first
      simp [Cutting.step, charsIn]
    | gap => exact first.elim
    | mark => simp [Cutting.step, charsIn]

theorem fieldsOf_whole (separators : List Char) {bits : List Bit} (whole : ∀ b ∈ bits, b.Whole)
    (some_bit : bits ≠ []) : fieldsOf separators bits = [charsIn bits] := by
  rw [fieldsOf, foldl_step separators whole]
  simp [some_bit, Cutting.finish]

theorem whole_bitsOf (quoted : Bool) (cs : List Char) :
    ∀ b ∈ bitsOf quoted false cs, b.Whole := by
  intro b mem
  obtain ⟨c, -, rfl⟩ := List.mem_map.1 mem
  rfl

theorem charsIn_mark (bits : List Bit) : charsIn (.mark :: bits) = charsIn bits := rfl

theorem charsIn_char (c : Char) (quoted splits : Bool) (bits : List Bit) :
    charsIn (.char c quoted splits :: bits) = (c, quoted) :: charsIn bits := rfl

theorem charsIn_append (bits more : List Bit) :
    charsIn (bits ++ more) = charsIn bits ++ charsIn more := List.filterMap_append

theorem charsIn_bitsOf (quoted : Bool) (cs : List Char) :
    charsIn (bitsOf quoted false cs) = cs.map (·, quoted) := by
  induction cs with
  | nil => rfl
  | cons c cs ih => exact congrArg _ ih

theorem whole_bitsFrom (front word : List Char) : ∀ b ∈ bitsFrom front word, b.Whole := by
  induction word generalizing front with
  | nil => exact List.forall_mem_cons.2 ⟨trivial, whole_bitsOf true front⟩
  | cons c word ih =>
    rw [bitsFrom]
    split
    · refine List.forall_mem_append.2 ⟨?_, List.forall_mem_cons.2 ⟨rfl, ih []⟩⟩
      exact List.forall_mem_cons.2 ⟨trivial, whole_bitsOf true front⟩
    · exact ih _

theorem charsIn_bitsFrom (front word : List Char) :
    charsIn (bitsFrom front word) = (front ++ word).map (·, true) := by
  induction word generalizing front with
  | nil => rw [bitsFrom, charsIn_mark, charsIn_bitsOf, List.append_nil]
  | cons c word ih =>
    rw [bitsFrom]
    split
    · rw [charsIn_append, charsIn_mark, charsIn_char, charsIn_bitsOf, ih, List.nil_append,
        List.map_append, List.map_cons]
    · rw [ih, List.append_assoc, List.singleton_append]

theorem bitsFrom_ne_nil (front word : List Char) : bitsFrom front word ≠ [] := by
  induction word generalizing front with
  | nil => exact List.cons_ne_nil _ _
  | cons c word ih =>
    rw [bitsFrom]
    split
    · exact List.cons_ne_nil _ _
    · exact ih _

/-- A quoted word is one field, and no wildcard is in it. -/
theorem exists_field (separators : List Char) (word : List Char) :
    ∃ field, fieldsOf separators (bitsSpelled word) = [field] ∧
      String.ofList (field.map (·.1)) = String.ofList word ∧ Glob.hasWildcards field = false := by
  by_cases quoted : needsQuotes word
  · refine ⟨word.map (·, true), ?_, by simp [Function.comp_def], by simp [Glob.hasWildcards]⟩
    rw [bitsSpelled, if_pos quoted, fieldsOf_whole separators (whole_bitsFrom [] word)
      (bitsFrom_ne_nil [] word), charsIn_bitsFrom, List.nil_append]
  · obtain ⟨some_char, harmless⟩ := harmless_of_bare quoted
    have some_bit : bitsOf false false word ≠ [] := mt List.map_eq_nil_iff.1 some_char
    refine ⟨word.map (·, false), ?_, by simp [Function.comp_def], ?_⟩
    · rw [bitsSpelled, if_neg quoted, fieldsOf_whole separators (whole_bitsOf false word) some_bit,
        charsIn_bitsOf]
    · rw [Glob.hasWildcards, List.any_eq_false]
      intro marked mem
      obtain ⟨c, char, rfl⟩ := List.mem_map.1 mem
      have bare := harmless c char
      simp only [special, List.mem_cons, List.not_mem_nil, or_false, not_or] at bare
      simp [bare]

/-! ## Words -/

section Runs

variable {α β : Type} {s s' : State}

theorem run_bind_ok {p : Sh α} {f : α → Sh β} {a : α} (done : p.run.run s = pure (.ok a, s')) :
    (p >>= f).run.run s = (f a).run.run s' := by
  rw [ExceptT.run_bind, StateT.run_bind, done, pure_bind]

theorem run_get_bind {f : State → Sh β} : (get >>= f).run.run s = (f s).run.run s := rfl

end Runs

theorem run_fieldNames {field : Field} (bare : Glob.hasWildcards field = false) (s : State) :
    (fieldNames field).run.run s = pure (.ok [String.ofList (field.map (·.1))], s) := by
  rw [fieldNames, run_get_bind, bare, Bool.not_false, Bool.or_true, if_pos rfl]
  rfl

/-- What the words of a line come to. -/
theorem run_expandWords (r : Runner) {words : List (List Char)}
    (enough : ∀ word ∈ words, (spelled word).length < wordFuel) (s : State) :
    (expandWords r (words.map spelled)).run.run s = pure (.ok (words.map String.ofList), s) := by
  induction words with
  | nil => rfl
  | cons word words ih =>
    obtain ⟨field, fields, same, bare⟩ := exists_field (separators s) word
    have rest := ih fun w mem => enough w (List.mem_cons_of_mem _ mem)
    have pieces := expandPieces_spelled r (enough word (List.mem_cons_self ..))
    rw [List.map_cons, expandWords, run_get_bind, tildes_spelled, pieces, pure_bind, run_get_bind,
      fields]
    simp only [List.forIn_cons, List.forIn_nil, bind_assoc, pure_bind, List.nil_append]
    rw [run_bind_ok (run_fieldNames bare s), run_bind_ok rest, same]
    rfl

theorem length_spelledFrom_le (front word : List Char) :
    (spelledFrom front word).length ≤ 2 * word.length + 1 := by
  induction word generalizing front with
  | nil => exact Nat.le_refl _
  | cons c word ih =>
    rw [spelledFrom, List.length_cons]
    split
    · have := ih []
      rw [List.length_cons, List.length_cons]
      omega
    · have := ih (front ++ [c])
      omega

theorem length_spelled_le (word : List Char) : (spelled word).length ≤ 2 * word.length + 1 := by
  rw [spelled]
  split
  · exact length_spelledFrom_le [] word
  · exact Nat.le_add_left _ _

/-- **A line of quoted words is read as one command of these words.** The shell asks its machine for
nothing meanwhile. -/
theorem reads_joinWords (r : Runner) {word : String} {words : List String} (bare : word ∉ keywords)
    (short : ∀ w ∈ word :: words, 2 * w.length + 1 < wordFuel) (s : State) :
    ∃ line pieces rest, Source.next { rest := (joinWords (word :: words)).toList } =
        .ok (.script (.simple line [] pieces []) rest) ∧
      rest.next = .ok .finish ∧
      (expandWords r pieces).run.run s = pure (.ok (word :: words), s) := by
  have bare : String.ofList word.toList ∉ keywords := by rwa [String.ofList_toList]
  obtain ⟨line, rest, read, finish⟩ := next_joinChars (words.map String.toList) bare
  refine ⟨line, ((word :: words).map String.toList).map spelled, rest, ?_, finish, ?_⟩
  · rw [joinWords, String.toList_ofList, List.map_cons, read, plainly]
  · have enough : ∀ w ∈ (word :: words).map String.toList, (spelled w).length < wordFuel := by
      intro chars mem
      obtain ⟨w, given, rfl⟩ := List.mem_map.1 mem
      refine Nat.lt_of_le_of_lt (length_spelled_le _) ?_
      rw [String.length_toList]
      exact short w given
    have same : ((word :: words).map String.toList).map String.ofList = word :: words := by
      simp [Function.comp_def]
    rw [run_expandWords r enough s, same]

end Testbed.Rehearsal.Machine.Shell
