import Testbed.Proofs.Text.Lines
import Testbed.Text.Elision
/-!
# What elision keeps

A text with more lines than are shown gets as many as are shown: its first lines, and the marker in
place of the rest. The lines were ended before, so that a carriage return that was left at the end
of one now stands before a line feed, and is no part of the line any more.

Main statements: `lines_elided`, the lines of an elided text; `elideChars_elideChars`, they are few
enough for the text to be left alone from then on.
-/
namespace Testbed.Text

variable {s : List Char} {maxLines : ℕ}

theorem elideChars_of_short (short : (lines s).length ≤ shownLines maxLines) :
    elideChars s maxLines = s := by
  rw [elideChars, elided?, if_pos short, Option.getD_none]

theorem shownLines_mono {larger : ℕ} (le : maxLines ≤ larger) :
    shownLines maxLines ≤ shownLines larger := by
  simp only [shownLines]
  omega

section Long

variable (long : shownLines maxLines < (lines s).length)
include long

theorem elideChars_of_long :
    elideChars s maxLines =
      joinBy ['\n'] ((lines s).take (shownLines maxLines - 1) ++ [elisionMarker.toList]) := by
  have some_line : (lines s).take (shownLines maxLines - 1) ≠ [] := by
    have two : 2 ≤ shownLines maxLines := Nat.le_max_right ..
    rw [Ne, List.take_eq_nil_iff, ← List.length_eq_zero_iff]
    omega
  rw [elideChars, elided?, if_neg (by omega), Option.getD_some, joinBy_concat _ _ some_line,
    List.append_assoc]
  rfl

/-- **The lines of an elided text.** -/
theorem lines_elided :
    lines (elideChars s maxLines) =
      ((lines s).take (shownLines maxLines - 1)).map dropReturn ++ [elisionMarker.toList] := by
  rw [elideChars_of_long long]
  refine lines_join (by decide) fun line mem => ?_
  rcases List.mem_append.1 mem with kept | marker
  · exact not_mem_of_mem_lines (List.mem_of_mem_take kept)
  · obtain rfl := List.mem_singleton.1 marker
    decide

theorem length_lines_elided :
    (lines (elideChars s maxLines)).length = shownLines maxLines := by
  have two : 2 ≤ shownLines maxLines := Nat.le_max_right ..
  rw [lines_elided long, List.length_append, List.length_map, List.length_take,
    List.length_singleton]
  omega

/-- A line of an elided text is one of the text, without a carriage return at its end. -/
theorem getElem?_lines_elided {i : ℕ} (kept : i < shownLines maxLines - 1) :
    ∃ line, (lines s)[i]? = some line ∧
      (lines (elideChars s maxLines))[i]? = some (dropReturn line) := by
  have within : i < (lines s).length := by omega
  refine ⟨(lines s)[i], List.getElem?_eq_getElem within, ?_⟩
  rw [lines_elided long, List.getElem?_append_left (by simp; omega), List.getElem?_map,
    List.getElem?_take_of_lt kept, List.getElem?_eq_getElem within, Option.map_some]

end Long

theorem length_lines_elideChars_le (s : List Char) (maxLines : ℕ) :
    (lines (elideChars s maxLines)).length ≤ shownLines maxLines := by
  rcases Nat.lt_or_ge (shownLines maxLines) (lines s).length with long | short
  · exact Nat.le_of_eq (length_lines_elided long)
  · rwa [elideChars_of_short short]

theorem elideChars_eq_self_iff :
    elideChars s maxLines = s ↔ (lines s).length ≤ shownLines maxLines := by
  refine ⟨fun same => ?_, elideChars_of_short⟩
  rw [← same]
  exact length_lines_elideChars_le s maxLines

/-- **Once is enough.** -/
theorem elideChars_elideChars {larger : ℕ} (le : maxLines ≤ larger) (s : List Char) :
    elideChars (elideChars s maxLines) larger = elideChars s maxLines :=
  elideChars_of_short (Nat.le_trans (length_lines_elideChars_le s maxLines) (shownLines_mono le))

end Testbed.Text
