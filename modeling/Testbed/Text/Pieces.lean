/-!
# Pieces of a text

Cutting a text at a character, and looking for a text inside another. Pieces that are joined by a
character that none of them has are cut apart again (`cutAt_join`).
-/
namespace Testbed.Text

/-- The pieces between the occurrences of `sep`: one more than there are occurrences. -/
def cutAt (sep : Char) : List Char → List (List Char)
  | [] => [[]]
  | c :: s =>
    if c = sep then [] :: cutAt sep s
    else match cutAt sep s with
      | [] => [[c]]
      | piece :: rest => (c :: piece) :: rest

/-- The pieces, with `sep` between two neighbours. -/
def joinBy (sep : List Char) : List (List Char) → List Char
  | [] => []
  | [piece] => piece
  | piece :: rest => piece ++ sep ++ joinBy sep rest

theorem cutAt_ne_nil (sep : Char) (s : List Char) : cutAt sep s ≠ [] := by
  cases s with
  | nil => simp [cutAt]
  | cons c s =>
    by_cases h : c = sep
    · simp [cutAt, h]
    · simp only [cutAt, h, if_false]; split <;> simp

/-- The first piece ends at the first separator. -/
theorem cutAt_append {sep : Char} {piece : List Char} (unbroken : sep ∉ piece) (rest : List Char) :
    cutAt sep (piece ++ sep :: rest) = piece :: cutAt sep rest := by
  induction piece with
  | nil => simp [cutAt]
  | cons c piece ih =>
    obtain ⟨other, unbroken⟩ := not_or.1 (mt List.mem_cons.2 unbroken)
    rw [List.cons_append, cutAt, if_neg (Ne.symm other), ih unbroken]

/-- A text without a separator is one piece. -/
theorem cutAt_of_not_mem {sep : Char} {s : List Char} (unbroken : sep ∉ s) : cutAt sep s = [s] := by
  induction s with
  | nil => rfl
  | cons c s ih =>
    obtain ⟨other, unbroken⟩ := not_or.1 (mt List.mem_cons.2 unbroken)
    rw [cutAt, if_neg (Ne.symm other), ih unbroken]

theorem not_mem_of_mem_cutAt {sep : Char} {s piece : List Char} (cut : piece ∈ cutAt sep s) :
    sep ∉ piece := by
  induction s generalizing piece with
  | nil => simp_all [cutAt]
  | cons c s ih =>
    by_cases here : c = sep
    · rw [cutAt, if_pos here] at cut
      rcases List.mem_cons.1 cut with rfl | cut
      · exact List.not_mem_nil
      · exact ih cut
    · rw [cutAt, if_neg here] at cut
      cases pieces : cutAt sep s with
      | nil => exact absurd pieces (cutAt_ne_nil sep s)
      | cons first rest =>
        simp only [pieces] at cut ih
        rcases List.mem_cons.1 cut with rfl | cut
        · simpa [Ne.symm here] using ih (List.mem_cons_self ..)
        · exact ih (List.mem_cons_of_mem _ cut)

theorem joinBy_cons (sep piece : List Char) {rest : List (List Char)} (more : rest ≠ []) :
    joinBy sep (piece :: rest) = piece ++ sep ++ joinBy sep rest := by
  cases rest with
  | nil => exact absurd rfl more
  | cons next rest => rfl

theorem joinBy_concat (sep last : List Char) {front : List (List Char)} (some_piece : front ≠ []) :
    joinBy sep (front ++ [last]) = joinBy sep front ++ sep ++ last := by
  induction front with
  | nil => exact absurd rfl some_piece
  | cons piece front ih =>
    by_cases more : front = []
    · subst more
      rfl
    · rw [List.cons_append, joinBy_cons _ _ (by simp), ih more, joinBy_cons _ _ more]
      simp only [List.append_assoc]

/-- Pieces that are joined are cut apart again. -/
theorem cutAt_join {sep : Char} {pieces : List (List Char)} (some_piece : pieces ≠ [])
    (unbroken : ∀ piece ∈ pieces, sep ∉ piece) : cutAt sep (joinBy [sep] pieces) = pieces := by
  induction pieces with
  | nil => exact absurd rfl some_piece
  | cons piece rest ih =>
    have first : sep ∉ piece := unbroken piece (List.mem_cons_self ..)
    by_cases more : rest = []
    · subst more
      exact cutAt_of_not_mem first
    · rw [joinBy_cons _ _ more, List.append_assoc]
      exact (cutAt_append first _).trans
        (congrArg _ (ih more fun p mem => unbroken p (List.mem_cons_of_mem _ mem)))

/-- What is put before a text is put before its first piece. -/
theorem cutAt_prepend {sep : Char} {t : List Char} (unbroken : sep ∉ t) (s : List Char) :
    ∃ first rest, cutAt sep s = first :: rest ∧ cutAt sep (t ++ s) = (t ++ first) :: rest := by
  induction t with
  | nil =>
    cases pieces : cutAt sep s with
    | nil => exact absurd pieces (cutAt_ne_nil sep s)
    | cons first rest => exact ⟨first, rest, rfl, pieces⟩
  | cons c t ih =>
    obtain ⟨other, unbroken⟩ := not_or.1 (mt List.mem_cons.2 unbroken)
    obtain ⟨first, rest, cut, longer⟩ := ih unbroken
    exact ⟨first, rest, cut, by rw [List.cons_append, cutAt, if_neg (Ne.symm other), longer]; rfl⟩

/-- What is put behind a text is put behind its last piece. -/
theorem cutAt_append_end {sep : Char} {t : List Char} (unbroken : sep ∉ t) (s : List Char) :
    ∃ front last, cutAt sep s = front ++ [last] ∧ cutAt sep (s ++ t) = front ++ [last ++ t] := by
  induction s with
  | nil => exact ⟨[], [], rfl, cutAt_of_not_mem unbroken⟩
  | cons c s ih =>
    obtain ⟨front, last, cut, longer⟩ := ih
    by_cases here : c = sep
    · refine ⟨[] :: front, last, ?_, ?_⟩
      · rw [cutAt, if_pos here, cut]
        rfl
      · rw [List.cons_append, cutAt, if_pos here, longer]
        rfl
    · rw [List.cons_append, cutAt, cutAt, if_neg here, if_neg here, cut, longer]
      cases front with
      | nil => exact ⟨[], c :: last, rfl, rfl⟩
      | cons first front => exact ⟨(c :: first) :: front, last, rfl, rfl⟩

/-- The pieces of a list, all of one length but perhaps the last. -/
def chunks {α : Type} (size : Nat) (xs : List α) : List (List α) := go xs xs.length
where
  go (xs : List α) : Nat → List (List α)
    | 0 => []
    | fuel + 1 => if xs.isEmpty then [] else xs.take size :: go (xs.drop size) fuel

/-- Whether `t` begins with `s`. -/
def startsWith (s t : List Char) : Bool := s.isPrefixOf t

/-- Whether `s` occurs in `t`. -/
def occursIn (s : List Char) : List Char → Bool
  | [] => s.isEmpty
  | c :: t => startsWith s (c :: t) || occursIn s t

/-- The texts, with `sep` between two neighbours. -/
def join (sep : String) (texts : List String) : String :=
  String.ofList (joinBy sep.toList (texts.map String.toList))

end Testbed.Text
