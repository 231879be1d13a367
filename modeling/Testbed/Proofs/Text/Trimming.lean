import Mathlib.Data.List.TakeWhile
import Testbed.Proofs.Text.Lines
import Testbed.Text.Blank
/-!
# Blanks around a text

Trimming takes away what blanks stand around a text, and does not see how many there were. The
carriage return that may stand before the end of a line is one of them.

Main statements: `trimChars_around`, a trimmed text is what is left of it between blanks;
`filterMap_lines`, what is read from the lines of a text, if blanks at their ends do not matter to
it, may as well be read from its pieces between line feeds.
-/
namespace Testbed.Text

def Blank (s : List Char) : Prop := ∀ c ∈ s, isBlank c

variable {s blanks : List Char}

theorem blank_nil : Blank [] := fun _ mem => absurd mem List.not_mem_nil

theorem Blank.not_mem {c : Char} (blank : Blank s) (visible : isBlank c = false) : c ∉ s :=
  fun mem => by simpa [visible] using blank c mem

/-! ## Blanks at an end -/

theorem trimLeft_of_blank (blank : Blank s) : trimLeft s = [] :=
  List.dropWhile_eq_nil_iff.2 blank

theorem trimLeft_blank_append (blank : Blank blanks) (s : List Char) :
    trimLeft (blanks ++ s) = trimLeft s :=
  List.dropWhile_append_of_pos blank

theorem trimLeft_append_blank (s : List Char) (blank : Blank blanks) :
    trimLeft (s ++ blanks) = if trimLeft s = [] then [] else trimLeft s ++ blanks := by
  have nothing : blanks.dropWhile isBlank = [] := trimLeft_of_blank blank
  rw [trimLeft, trimLeft, List.dropWhile_append, nothing]
  by_cases all : s.dropWhile isBlank = []
  · simp [all]
  · simp [all]

theorem trimRight_append_blank (s : List Char) (blank : Blank blanks) :
    trimRight (s ++ blanks) = trimRight s := by
  have mirrored : Blank blanks.reverse := fun c mem => blank c (List.mem_reverse.1 mem)
  rw [trimRight, List.reverse_append, trimRight]
  exact congrArg List.reverse (trimLeft_blank_append mirrored s.reverse)

theorem trimChars_blank_append (blank : Blank blanks) (s : List Char) :
    trimChars (blanks ++ s) = trimChars s := by
  rw [trimChars, trimLeft_blank_append blank, trimChars]

theorem trimChars_append_blank (s : List Char) (blank : Blank blanks) :
    trimChars (s ++ blanks) = trimChars s := by
  rw [trimChars, trimLeft_append_blank s blank, trimChars]
  split
  · next nothing => rw [nothing]
  · exact trimRight_append_blank _ blank

/-- **A text between blanks.** -/
theorem trimChars_around {before after : List Char} (blankBefore : Blank before)
    (trimmed : Trimmed s) (blankAfter : Blank after) :
    trimChars (before ++ (s ++ after)) = s := by
  rw [trimChars_blank_append blankBefore, trimChars_append_blank s blankAfter,
    trim_of_trimmed trimmed]

/-! ## What is trimmed off -/

theorem exists_trimLeft (s : List Char) : ∃ before, Blank before ∧ s = before ++ trimLeft s :=
  ⟨s.takeWhile isBlank, fun _ mem => List.mem_takeWhile_imp mem,
    List.takeWhile_append_dropWhile.symm⟩

theorem exists_trimRight (s : List Char) : ∃ after, Blank after ∧ s = trimRight s ++ after := by
  obtain ⟨blanks, blank, whole⟩ := exists_trimLeft s.reverse
  refine ⟨blanks.reverse, fun c mem => blank c (List.mem_reverse.1 mem), ?_⟩
  calc
    s = s.reverse.reverse := (List.reverse_reverse s).symm
    _ = (trimLeft s.reverse).reverse ++ blanks.reverse := by
      rw [← List.reverse_append, ← whole]

/-- A text is what is left of it between blanks. -/
theorem exists_trimChars (s : List Char) :
    ∃ before after, Blank before ∧ Blank after ∧ s = before ++ (trimChars s ++ after) := by
  obtain ⟨before, blankBefore, whole⟩ := exists_trimLeft s
  obtain ⟨after, blankAfter, rest⟩ := exists_trimRight (trimLeft s)
  exact ⟨before, after, blankBefore, blankAfter, by rw [trimChars, ← rest, ← whole]⟩

theorem mem_of_mem_trimChars {c : Char} (mem : c ∈ trimChars s) : c ∈ s := by
  obtain ⟨before, after, -, -, whole⟩ := exists_trimChars s
  rw [whole]
  exact List.mem_append_right _ (List.mem_append_left _ mem)

theorem trimmed_trimChars (s : List Char) : Trimmed (trimChars s) := by
  obtain ⟨after, -, rest⟩ := exists_trimRight (trimLeft s)
  constructor
  · intro c first
    have begins : (trimLeft s).head? = some c := by
      rw [rest]
      exact List.mem_head?_append_of_mem_head? first
    have visible := List.head?_dropWhile_not isBlank s
    rw [← trimLeft, begins] at visible
    exact visible
  · intro c last
    have visible := List.head?_dropWhile_not isBlank (trimLeft s).reverse
    rw [trimChars, trimRight, List.getLast?_reverse] at last
    rw [Option.mem_def.1 last] at visible
    exact visible

/-! ## Ends of lines -/

/-- What a line loses to its end is a blank or nothing. -/
theorem exists_dropReturn (s : List Char) :
    ∃ blanks, Blank blanks ∧ s = dropReturn s ++ blanks := by
  rcases eq_dropReturn_or s with whole | whole
  · exact ⟨[], blank_nil, by rw [List.append_nil]; exact whole⟩
  · exact ⟨['\r'], by simp [Blank, isBlank], whole⟩

/-- A reading of lines for which blanks at their ends do not matter is a reading of the pieces. -/
theorem filterMap_lines {α : Type} {read : List Char → Option α} (nothing : read [] = none)
    (trailing : ∀ s blanks, Blank blanks → read (s ++ blanks) = read s) (s : List Char) :
    (lines s).filterMap read = (cutAt '\n' s).filterMap read := by
  have returns (s : List Char) : read (dropReturn s) = read s := by
    obtain ⟨blanks, blank, whole⟩ := exists_dropReturn s
    rw [← trailing (dropReturn s) blanks blank, ← whole]
  unfold lines
  -- a last piece that is empty is no line; each other piece is a line but for a carriage return
  fun_induction linesOfPieces (cutAt '\n' s) with
  | case1 => rfl
  | case2 rest empty =>
    rw [List.isEmpty_iff.1 empty]
    simp [nothing]
  | case3 => rfl
  | case4 piece next more ih => rw [List.filterMap_cons, List.filterMap_cons, returns, ih]

end Testbed.Text
