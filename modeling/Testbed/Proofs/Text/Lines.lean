import Mathlib.Data.List.Basic
import Testbed.Text.Lines
/-!
# Lines of a text

No line holds a line feed, and a line loses at most one carriage return to its end
(`eq_dropReturn_or`). Main statement: `lines_join`, lines that are put together with line feeds
between them are lines again, but for that.
-/
namespace Testbed.Text

/-- A line loses one carriage return to its end, or nothing. -/
theorem eq_dropReturn_or (s : List Char) : s = dropReturn s ∨ s = dropReturn s ++ ['\r'] := by
  by_cases returned : s.getLast? = some '\r'
  · rw [dropReturn, if_pos returned]
    exact .inr (List.dropLast_append_getLast? _ returned).symm
  · rw [dropReturn, if_neg returned]
    exact .inl rfl

theorem mem_of_mem_dropReturn {c : Char} {s : List Char} (mem : c ∈ dropReturn s) : c ∈ s := by
  rcases eq_dropReturn_or s with whole | whole
  · rwa [whole]
  · rw [whole]
    exact List.mem_append_left _ mem

theorem linesOfPieces_concat (front : List (List Char)) (last : List Char) :
    linesOfPieces (front ++ [last]) =
      front.map dropReturn ++ if last.isEmpty then [] else [last] := by
  induction front with
  | nil => rfl
  | cons piece front ih =>
    obtain ⟨next, more, same⟩ : ∃ next more, front ++ [last] = next :: more :=
      List.exists_cons_of_ne_nil (by simp)
    rw [List.cons_append, same, linesOfPieces, ← same, ih]
    rfl

theorem not_mem_of_mem_lines {s line : List Char} (mem : line ∈ lines s) : '\n' ∉ line := by
  have unbroken : ∀ piece ∈ cutAt '\n' s, '\n' ∉ piece := fun _ => not_mem_of_mem_cutAt
  obtain ⟨front, last, cut⟩ :=
    (List.eq_nil_or_concat' (cutAt '\n' s)).resolve_left (cutAt_ne_nil _ s)
  rw [cut] at unbroken
  rw [lines, cut, linesOfPieces_concat] at mem
  rcases List.mem_append.1 mem with mem | mem
  · obtain ⟨piece, among, rfl⟩ := List.mem_map.1 mem
    exact fun feed => unbroken piece (by simp [among]) (mem_of_mem_dropReturn feed)
  · split at mem
    · cases mem
    · obtain rfl := List.mem_singleton.1 mem
      exact unbroken _ (by simp)

/-- Lines that are put together are lines again, but for a carriage return at the end of each. -/
theorem lines_join {front : List (List Char)} {last : List Char} (some_char : last ≠ [])
    (unbroken : ∀ line ∈ front ++ [last], '\n' ∉ line) :
    lines (joinBy ['\n'] (front ++ [last])) = front.map dropReturn ++ [last] := by
  rw [lines, cutAt_join (by simp) unbroken, linesOfPieces_concat, if_neg (by simpa using some_char)]

end Testbed.Text
