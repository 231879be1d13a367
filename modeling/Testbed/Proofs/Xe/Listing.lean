import Testbed.Proofs.Text.Trimming
import Testbed.Xe.Listing
/-!
# Bare lists are read back

A list with all the freedom that its writer has: blanks around each item and around the whole, and
fields with nothing but blanks in them anywhere (`Writes`). Whether blanks stand around the whole or
around its outermost fields is the same (`items_eq`).

Main statement: `listing_inverts_join`, the items of a list are those that were written, and the
items of any text, written as a list again, are the same.
-/
namespace Testbed.Xe

open Text

/-- What can be an item of a list. -/
def IsItem (s : List Char) : Prop := s ≠ [] ∧ Trimmed s ∧ ',' ∉ s

/-- The fields of a list that says these items in this order. -/
inductive Writes : List (List Char) → List (List Char) → Prop
  | nothing : Writes [] []
  | gap {blanks : List Char} {items fields : List (List Char)} :
      Blank blanks → Writes items fields → Writes items (blanks :: fields)
  | item {before item after : List Char} {items fields : List (List Char)} :
      Blank before → Blank after → Writes items fields →
      Writes (item :: items) ((before ++ (item ++ after)) :: fields)

theorem writes_bare (items : List (List Char)) : Writes items items := by
  induction items with
  | nil => exact .nothing
  | cons item items ih =>
    have bare : Writes (item :: items) (([] ++ (item ++ [])) :: items) :=
      .item blank_nil blank_nil ih
    rwa [List.nil_append, List.append_nil] at bare

/-! ## Fields -/

def kept (fields : List (List Char)) : List (List Char) := (fields.map trimChars).filter (· ≠ [])

theorem isItem_of_mem_kept {fields : List (List Char)} {item : List Char}
    (plain : ∀ field ∈ fields, ',' ∉ field) (mem : item ∈ kept fields) : IsItem item := by
  obtain ⟨trimmed, some_char⟩ := List.mem_filter.1 mem
  obtain ⟨field, among, rfl⟩ := List.mem_map.1 trimmed
  exact ⟨by simpa using some_char, trimmed_trimChars field,
    fun comma => plain field among (mem_of_mem_trimChars comma)⟩

theorem kept_of_writes {items fields : List (List Char)} (writes : Writes items fields)
    (proper : ∀ item ∈ items, IsItem item) : kept fields = items := by
  induction writes with
  | nothing => rfl
  | @gap blanks items fields blank _ ih =>
    have nothing : trimChars blanks = [] := by
      simpa using trimChars_around blank (s := []) (by simp [Trimmed]) blank_nil
    rw [kept, List.map_cons, nothing]
    exact ih proper
  | @item before item after items fields blankBefore blankAfter _ ih =>
    obtain ⟨some_char, trimmed, -⟩ := proper item (List.mem_cons_self ..)
    have read : trimChars (before ++ (item ++ after)) = item :=
      trimChars_around blankBefore trimmed blankAfter
    rw [kept, List.map_cons, read, List.filter_cons_of_pos (by simpa using some_char)]
    exact congrArg _ (ih fun other mem => proper other (List.mem_cons_of_mem _ mem))

theorem plain_of_writes {items fields : List (List Char)} (writes : Writes items fields)
    (proper : ∀ item ∈ items, IsItem item) : ∀ field ∈ fields, ',' ∉ field := by
  induction writes with
  | nothing => exact nofun
  | @gap blanks items fields blank _ ih =>
    exact List.forall_mem_cons.2 ⟨blank.not_mem (by decide), ih proper⟩
  | @item before item after items fields blankBefore blankAfter _ ih =>
    obtain ⟨⟨-, -, plain⟩, others⟩ := List.forall_mem_cons.1 proper
    have blanks : ',' ∉ before ∧ ',' ∉ after :=
      ⟨blankBefore.not_mem (by decide), blankAfter.not_mem (by decide)⟩
    exact List.forall_mem_cons.2 ⟨by simp [blanks, plain], ih others⟩

/-! ## Whole lists -/

/-- Blanks around a list are blanks around its outermost fields. -/
theorem kept_cutAt_around {before after : List Char} (blankBefore : Blank before)
    (blankAfter : Blank after) (s : List Char) :
    kept (cutAt ',' (before ++ (s ++ after))) = kept (cutAt ',' s) := by
  have comma {blanks : List Char} (blank : Blank blanks) : ',' ∉ blanks := blank.not_mem (by decide)
  obtain ⟨first, rest, cut, longer⟩ := cutAt_prepend (comma blankBefore) (s ++ after)
  obtain ⟨front, last, inner, outer⟩ := cutAt_append_end (comma blankAfter) s
  have behind : (cutAt ',' (s ++ after)).map trimChars = (cutAt ',' s).map trimChars := by
    rw [inner, outer, List.map_append, List.map_append, List.map_singleton, List.map_singleton,
      trimChars_append_blank last blankAfter]
  have around : (cutAt ',' (before ++ (s ++ after))).map trimChars =
      (cutAt ',' (s ++ after)).map trimChars := by
    rw [cut, longer, List.map_cons, List.map_cons, trimChars_blank_append blankBefore first]
  rw [kept, kept, around, behind]

/-- It does not matter that a list is trimmed before it is cut. -/
theorem items_eq (s : List Char) : items s = kept (cutAt ',' s) := by
  obtain ⟨before, after, blankBefore, blankAfter, whole⟩ := exists_trimChars s
  calc
    items s = kept (cutAt ',' (trimChars s)) := rfl
    _ = kept (cutAt ',' (before ++ (trimChars s ++ after))) :=
      (kept_cutAt_around blankBefore blankAfter _).symm
    _ = kept (cutAt ',' s) := by rw [← whole]

theorem isItem_of_mem_items {s item : List Char} (mem : item ∈ items s) : IsItem item := by
  rw [items_eq] at mem
  exact isItem_of_mem_kept (fun _ => not_mem_of_mem_cutAt) mem

theorem items_join {written fields : List (List Char)} (proper : ∀ item ∈ written, IsItem item)
    (writes : Writes written fields) {before after : List Char} (blankBefore : Blank before)
    (blankAfter : Blank after) :
    items (before ++ (joinBy [','] fields ++ after)) = written := by
  rw [items_eq, kept_cutAt_around blankBefore blankAfter]
  by_cases some_field : fields = []
  · subst some_field
    cases writes
    rfl
  · rw [cutAt_join some_field (plain_of_writes writes proper), kept_of_writes writes proper]

/-- **Bare lists are read back.** Items with commas between them, with blanks around each and around
the whole, and with fields of nothing but blanks between them or at the ends, are read as these
items in this order. What is read from any text are items, and with commas between them they are
read as what they are. -/
theorem listing_inverts_join :
    (∀ (words : List String) (fields : List (List Char)) (before after : List Char),
      (∀ word ∈ words, word ≠ "" ∧ Trimmed word.toList ∧ ',' ∉ word.toList) →
      Writes (words.map String.toList) fields → Blank before → Blank after →
      listing (String.ofList (before ++ (joinBy [','] fields ++ after))) = words) ∧
    ∀ text : String,
      (∀ word ∈ listing text, word ≠ "" ∧ Trimmed word.toList ∧ ',' ∉ word.toList) ∧
      listing (join "," (listing text)) = listing text := by
  have back (words : List (List Char)) : (words.map String.ofList).map String.toList = words := by
    simp
  refine ⟨fun words fields before after proper writes blankBefore blankAfter => ?_,
    fun text => ⟨?_, ?_⟩⟩
  · have items : ∀ item ∈ words.map String.toList, IsItem item := by
      intro item mem
      obtain ⟨word, among, rfl⟩ := List.mem_map.1 mem
      obtain ⟨some_char, rest⟩ := proper word among
      exact ⟨mt String.toList_eq_nil_iff.1 some_char, rest⟩
    rw [listing, String.toList_ofList, items_join items writes blankBefore blankAfter]
    simp
  · intro word mem
    obtain ⟨item, among, rfl⟩ := List.mem_map.1 mem
    obtain ⟨some_char, rest⟩ := isItem_of_mem_items among
    rw [String.toList_ofList]
    exact ⟨by simpa using some_char, rest⟩
  · have read := items_join (fun _ => isItem_of_mem_items) (writes_bare (items text.toList))
      blank_nil blank_nil
    rw [List.nil_append, List.append_nil] at read
    rw [listing, listing, join, String.toList_ofList, back]
    exact congrArg _ read

/-- Two items, one with a no-break space beside it, among fields that hold none. -/
theorem listing_of_gappy_list :
    let fields := [[], " a b".toList, "\t".toList, "c\u00A0".toList, []]
    (∀ word ∈ ["a b", "c"], word ≠ "" ∧ Trimmed word.toList ∧ ',' ∉ word.toList) ∧
    Writes (["a b", "c"].map String.toList) fields ∧ Blank [' '] ∧ Blank ['\r', '\n'] ∧
    listing (String.ofList ([' '] ++ (joinBy [','] fields ++ ['\r', '\n']))) = ["a b", "c"] := by
  intro fields
  have proper : ∀ word ∈ ["a b", "c"], word ≠ "" ∧ Trimmed word.toList ∧ ',' ∉ word.toList := by
    simp [Trimmed, isBlank]
  have blank : ∀ c ∈ [' ', '\t', '\u00A0'], Blank [c] := by simp [Blank, isBlank]
  have writes : Writes (["a b", "c"].map String.toList) fields :=
    .gap blank_nil <| .item (blank ' ' (by decide)) blank_nil <| .gap (blank '\t' (by decide)) <|
      .item blank_nil (blank '\u00A0' (by decide)) <| .gap blank_nil .nothing
  have blankBefore : Blank [' '] := blank ' ' (by decide)
  have blankAfter : Blank ['\r', '\n'] := by simp [Blank, isBlank]
  exact ⟨proper, writes, blankBefore, blankAfter,
    listing_inverts_join.1 _ _ _ _ proper writes blankBefore blankAfter⟩

end Testbed.Xe
