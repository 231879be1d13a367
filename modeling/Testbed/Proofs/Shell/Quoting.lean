import Testbed.Shell.Quote
import Testbed.Shell.Words
/-!
# Quoted words are read back

Quoting and splitting undo each other. The reader of a line is followed through one quoted word
(`splitFrom_quoteChars`): whatever the word is and whatever follows it, the reader stands at its end
with the characters of the word read and nothing else.

Main statements: `split_joinWords`, a line of quoted words splits into these words;
`splitChars_joinChars_append`, what stands behind them is read afresh.
-/
namespace Testbed.Shell

/-! ## The next character -/

theorem splitFrom_between_cons (word rest : List Char) (c : Char) :
    splitFrom .between word (c :: rest) =
      if c = '\'' then splitFrom .single word rest
      else if c = '"' then splitFrom .double word rest
      else if c = '\\' then splitFrom .betweenEscape word rest
      else if isSeparator c then splitFrom .between word rest
      else if c = '#' then splitFrom .comment word rest
      else splitFrom .word (c :: word) rest := rfl

theorem splitFrom_word_cons (word rest : List Char) (c : Char) :
    splitFrom .word word (c :: rest) =
      if c = '\'' then splitFrom .single word rest
      else if c = '"' then splitFrom .double word rest
      else if c = '\\' then splitFrom .wordEscape word rest
      else if isSeparator c then (splitFrom .between [] rest).map (word.reverse :: ·)
      else splitFrom .word (c :: word) rest := rfl

theorem splitFrom_single_cons (word rest : List Char) (c : Char) :
    splitFrom .single word (c :: rest) =
      if c = '\'' then splitFrom .word word rest else splitFrom .single (c :: word) rest := rfl

theorem splitFrom_between_of_plain {c : Char} (plain : c ∉ special) (word rest : List Char) :
    splitFrom .between word (c :: rest) = splitFrom .word (c :: word) rest := by
  simp only [special, List.mem_cons, List.not_mem_nil, not_or] at plain
  simp [splitFrom_between_cons, isSeparator, plain]

theorem splitFrom_word_of_plain {c : Char} (plain : c ∉ special) (word rest : List Char) :
    splitFrom .word word (c :: rest) = splitFrom .word (c :: word) rest := by
  simp only [special, List.mem_cons, List.not_mem_nil, not_or] at plain
  simp [splitFrom_word_cons, isSeparator, plain]

/-- A blank ends a word, and what follows is read afresh. -/
theorem splitFrom_word_blank (word rest : List Char) :
    splitFrom .word word (' ' :: rest) = (splitChars rest).map (word.reverse :: ·) := rfl

/-- A quote that was escaped leaves the quotes, and they are entered again behind it. -/
theorem splitFrom_single_quote (word rest : List Char) :
    splitFrom .single word ('\'' :: '\\' :: '\'' :: '\'' :: rest) =
      splitFrom .single ('\'' :: word) rest := rfl

/-! ## One word -/

/-- Characters that are not special stand for themselves. -/
theorem splitFrom_plain {read : List Char} (plain : ∀ c ∈ read, c ∉ special)
    (word rest : List Char) :
    splitFrom .word word (read ++ rest) = splitFrom .word (read.reverse ++ word) rest := by
  induction read generalizing word with
  | nil => rfl
  | cons c read ih =>
    have first : c ∉ special := plain c (List.mem_cons_self ..)
    have others : ∀ d ∈ read, d ∉ special := fun d hd => plain d (List.mem_cons_of_mem _ hd)
    rw [List.cons_append, splitFrom_word_of_plain first, ih others]
    simp

/-- What stands between single quotes is read up to the closing quote. A quote in it leaves the
quotes, is escaped, and enters them again, so that the reader is back where it was. -/
theorem splitFrom_escape (read word rest : List Char) :
    splitFrom .single word (escape read ++ '\'' :: rest) =
      splitFrom .word (read.reverse ++ word) rest := by
  induction read generalizing word with
  | nil => rfl
  | cons c read ih =>
    by_cases quote : c = '\''
    · subst quote
      rw [escape]
      simp only [List.cons_append, splitFrom_single_quote, ih]
      simp
    · simp [escape, splitFrom_single_cons, quote, ih]

/-- **One word.** After a quoted word the reader stands in a word that is the one quoted. -/
theorem splitFrom_quoteChars (word rest : List Char) :
    splitFrom .between [] (quoteChars word ++ rest) = splitFrom .word word.reverse rest := by
  by_cases quoted : needsQuotes word
  · rw [quoteChars, if_pos quoted, List.append_assoc, List.cons_append]
    have opened : splitFrom .between [] ('\'' :: (escape word ++ (['\''] ++ rest))) =
        splitFrom .single [] (escape word ++ '\'' :: rest) := rfl
    rw [opened, splitFrom_escape, List.append_nil]
  · rw [quoteChars, if_neg quoted]
    cases word with
    | nil => simp [needsQuotes] at quoted
    | cons c word =>
      have plain : ∀ d ∈ c :: word, d ∉ special := by
        simpa [needsQuotes] using quoted
      have first : c ∉ special := plain c (List.mem_cons_self ..)
      have others : ∀ d ∈ word, d ∉ special := fun d hd => plain d (List.mem_cons_of_mem _ hd)
      rw [List.cons_append, splitFrom_between_of_plain first, splitFrom_plain others]
      simp

/-! ## Lines of words -/

/-- A blank ends a quoted word, and what follows is read afresh. -/
theorem splitChars_quoteChars (word rest : List Char) :
    splitChars (quoteChars word ++ ' ' :: rest) = (splitChars rest).map (word :: ·) := by
  rw [splitChars, splitFrom_quoteChars, splitFrom_word_blank, List.reverse_reverse]

theorem joinChars_cons (word : List Char) {words : List (List Char)} (more : words ≠ []) :
    joinChars (word :: words) = quoteChars word ++ ' ' :: joinChars words := by
  rw [joinChars, List.map_cons, Text.joinBy_cons _ _ (by simpa using more), List.append_assoc]
  rfl

theorem splitChars_joinChars (words : List (List Char)) :
    splitChars (joinChars words) = some words := by
  induction words with
  | nil => rfl
  | cons word words ih =>
    by_cases more : words = []
    · subst more
      have last := splitFrom_quoteChars word []
      have ended : splitFrom .word word.reverse [] = some [word.reverse.reverse] := rfl
      simpa [splitChars, joinChars, Text.joinBy, ended] using last
    · rw [joinChars_cons word more, splitChars_quoteChars, ih]
      rfl

/-- A blank ends a line of words, and what follows is read afresh. -/
theorem splitChars_joinChars_append {words : List (List Char)} (some_word : words ≠ [])
    (rest : List Char) :
    splitChars (joinChars words ++ ' ' :: rest) = (splitChars rest).map (words ++ ·) := by
  induction words with
  | nil => exact absurd rfl some_word
  | cons word words ih =>
    by_cases more : words = []
    · subst more
      exact splitChars_quoteChars word rest
    · rw [joinChars_cons word more, List.append_assoc, List.cons_append, splitChars_quoteChars,
        ih more, Option.map_map]
      rfl

/-- **Words are read back.** Whatever the words are, a line of them, each quoted, splits into
them. -/
theorem split_joinWords (words : List String) : split (joinWords words) = some words := by
  rw [split, joinWords, String.toList_ofList, splitChars_joinChars]
  simp

end Testbed.Shell
