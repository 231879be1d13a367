import Testbed.Proofs.Text.Trimming
import Testbed.Xe.Parameters
/-!
# Parameter lists are read back

A listing, with all the freedom that its writer has: blanks, whatever stands in the parentheses of
the access, the characters of keys and values, and lines that are no parameters (`Line`). Each line
ends in a line feed, with or without a carriage return before it (`Ending`).

Main statement: `find?_parameters_render`, what is found in a listing under a name is the value of
the last line with this name as its key.
-/
namespace Testbed.Xe

open Text

/-! ## Listings -/

/-- A line `key ( RO)   : value`. -/
structure Record where
  indent : List Char
  key : List Char
  /-- Between the key and the access. -/
  gap : List Char
  access : List Char
  beforeColon : List Char
  afterColon : List Char
  value : List Char
  blank : ∀ s ∈ [indent, gap, beforeColon, afterColon], Blank s ∧ '\n' ∉ s
  named : key ≠ []
  key_trimmed : Trimmed key
  key_plain : ∀ c ∈ key, c ≠ ')' ∧ c ≠ '\n'
  access_plain : ∀ c ∈ access, c ≠ '(' ∧ c ≠ ')' ∧ c ≠ '\n'
  value_trimmed : Trimmed value
  value_plain : '\n' ∉ value

namespace Record

def front (r : Record) : List Char := r.indent ++ (r.key ++ r.gap)

def back (r : Record) : List Char := r.beforeColon ++ ':' :: (r.afterColon ++ r.value)

def text (r : Record) : List Char := (r.front ++ '(' :: r.access) ++ ')' :: r.back

end Record

/-- A line of a listing. -/
inductive Line
  | record (r : Record)
  /-- A line that is no parameter. -/
  | noise (text : List Char) (plain : ∀ c ∈ text, c ≠ ')' ∧ c ≠ '\n')

namespace Line

def text : Line → List Char
  | record r => r.text
  | noise text _ => text

def record? : Line → Option Record
  | record r => some r
  | noise _ _ => none

end Line

inductive Ending
  | feed
  | returnFeed

/-- What stands before the line feed. -/
def Ending.beforeFeed : Ending → List Char
  | feed => []
  | returnFeed => ['\r']

/-- Lines, each with its end. -/
def render : List (Line × Ending) → List Char
  | [] => []
  | (line, ending) :: rest => (line.text ++ ending.beforeFeed) ++ '\n' :: render rest

def records (lines : List (Line × Ending)) : List Record := lines.filterMap (·.1.record?)

/-! ## Cutting a line -/

theorem splitFirst_eq_none {c : Char} {s : List Char} : splitFirst c s = none ↔ c ∉ s := by
  induction s with
  | nil => simp [splitFirst]
  | cons d s ih =>
    by_cases here : d = c
    · simp [splitFirst, here]
    · simp [splitFirst, here, ih, Ne.symm here]

theorem splitFirst_eq_some {c : Char} {s before after : List Char} :
    splitFirst c s = some (before, after) ↔ s = before ++ c :: after ∧ c ∉ before := by
  induction s generalizing before with
  | nil => simp [splitFirst]
  | cons d s ih =>
    by_cases here : d = c
    · subst here
      rw [splitFirst, if_pos rfl]
      constructor
      · rintro ⟨⟩
        simp
      · rintro ⟨whole, absent⟩
        cases before with
        | nil => simpa using whole
        | cons b before => simp_all
    · rw [splitFirst, if_neg here, Option.map_eq_some_iff]
      constructor
      · rintro ⟨⟨head, tail⟩, cut, same⟩
        cases same
        obtain ⟨rfl, absent⟩ := ih.1 cut
        exact ⟨rfl, by simp [absent, Ne.symm here]⟩
      · rintro ⟨whole, absent⟩
        cases before with
        | nil => exact absurd (List.cons.inj whole).1 here
        | cons b before =>
          obtain ⟨rfl, rest⟩ := List.cons.inj whole
          exact ⟨(before, after), ih.2 ⟨rest, fun mem => absent (List.mem_cons_of_mem _ mem)⟩, rfl⟩

theorem beforeLast_append {c : Char} {after : List Char} (absent : c ∉ after)
    (before : List Char) : beforeLast c (before ++ c :: after) = some before := by
  have mirrored : (before ++ c :: after).reverse = after.reverse ++ c :: before.reverse := by simp
  have cut : splitFirst c (before ++ c :: after).reverse = some (after.reverse, before.reverse) :=
    splitFirst_eq_some.2 ⟨mirrored, by simpa using absent⟩
  rw [beforeLast, cut]
  simp

/-! ## Lines -/

/-- A line without a closing parenthesis is no parameter. -/
theorem parameter?_of_open {line : List Char} (unclosed : ')' ∉ line) : parameter? line = none := by
  rw [parameter?, splitFirst_eq_none.2 unclosed]
  rfl

/-- Blanks at the end of a line do not matter. -/
theorem parameter?_append_blank (line blanks : List Char) (blank : Blank blanks) :
    parameter? (line ++ blanks) = parameter? line := by
  have unclosed : ')' ∉ blanks := blank.not_mem (by decide)
  cases cut : splitFirst ')' line with
  | none =>
    have absent : ')' ∉ line := splitFirst_eq_none.1 cut
    rw [parameter?_of_open absent, parameter?_of_open (by simp [absent, unclosed])]
  | some parts =>
    obtain ⟨head, tail⟩ := parts
    obtain ⟨rfl, first⟩ := splitFirst_eq_some.1 cut
    have longer : splitFirst ')' (head ++ ')' :: tail ++ blanks) = some (head, tail ++ blanks) :=
      splitFirst_eq_some.2 ⟨by simp, first⟩
    simp only [parameter?, cut, longer, Option.bind_eq_bind, Option.bind_some]
    rw [trimLeft_append_blank tail blank]
    -- a colon is no blank, so the blanks are behind it if there is one, and are trimmed off
    cases trimmed : trimLeft tail with
    | nil => simp
    | cons c value =>
      by_cases colon : c = ':'
      · subst colon
        simp [trimChars_append_blank value blank]
      · simp [colon]

namespace Record

theorem unclosed (r : Record) : ')' ∉ r.front ++ '(' :: r.access := by
  have gaps : ')' ∉ r.indent ∧ ')' ∉ r.gap :=
    ⟨(r.blank _ (by simp)).1.not_mem (by decide), (r.blank _ (by simp)).1.not_mem (by decide)⟩
  have key : ')' ∉ r.key := fun mem => (r.key_plain _ mem).1 rfl
  have access : ')' ∉ r.access := fun mem => (r.access_plain _ mem).2.1 rfl
  simp [front, gaps, key, access]

theorem unbroken (r : Record) : '\n' ∉ r.text := by
  have gaps : '\n' ∉ r.indent ∧ '\n' ∉ r.gap ∧ '\n' ∉ r.beforeColon ∧ '\n' ∉ r.afterColon := by
    simpa using fun s mem => (r.blank s mem).2
  have key : '\n' ∉ r.key := fun mem => (r.key_plain _ mem).2 rfl
  have access : '\n' ∉ r.access := fun mem => (r.access_plain _ mem).2.2 rfl
  simp [text, front, back, gaps, key, access, r.value_plain]

theorem parameter?_text (r : Record) : parameter? r.text = some (r.key, r.value) := by
  have blank {s : List Char} (mem : s ∈ [r.indent, r.gap, r.beforeColon, r.afterColon]) :
      Blank s := (r.blank s mem).1
  have cut : splitFirst ')' r.text = some (r.front ++ '(' :: r.access, r.back) :=
    splitFirst_eq_some.2 ⟨rfl, r.unclosed⟩
  have colon : trimLeft r.back = ':' :: (r.afterColon ++ r.value) := by
    rw [back, trimLeft_blank_append (blank (by simp))]
    rfl
  have value : trimChars (r.afterColon ++ r.value) = r.value := by
    rw [trimChars_blank_append (blank (by simp)), trim_of_trimmed r.value_trimmed]
  have key : trimChars r.front = r.key :=
    trimChars_around (blank (by simp)) r.key_trimmed (blank (by simp))
  have access : beforeLast '(' (r.front ++ '(' :: r.access) = some r.front :=
    beforeLast_append (fun mem => (r.access_plain _ mem).1 rfl) r.front
  simp [parameter?, cut, colon, value, access, key, r.named]

end Record

theorem Line.parameter?_text (line : Line) :
    parameter? line.text = line.record?.map fun r => (r.key, r.value) := by
  cases line with
  | record r => exact r.parameter?_text
  | noise text plain => exact parameter?_of_open fun mem => (plain _ mem).1 rfl

/-! ## Whole listings -/

theorem Line.unbroken (line : Line) : '\n' ∉ line.text := by
  cases line with
  | record r => exact r.unbroken
  | noise text plain => exact fun mem => (plain _ mem).2 rfl

theorem Ending.unbroken (ending : Ending) : '\n' ∉ ending.beforeFeed := by
  cases ending <;> decide

theorem Ending.blank (ending : Ending) : Blank ending.beforeFeed := by
  cases ending <;> simp [Blank, beforeFeed, isBlank]

/-- Line by line, what is read is what is written. -/
theorem filterMap_cutAt_render (lines : List (Line × Ending)) :
    (cutAt '\n' (render lines)).filterMap parameter? =
      (records lines).map fun r => (r.key, r.value) := by
  induction lines with
  | nil => rfl
  | cons head lines ih =>
    obtain ⟨line, ending⟩ := head
    have unbroken : '\n' ∉ line.text ++ ending.beforeFeed := by
      simp [line.unbroken, ending.unbroken]
    have read : parameter? (line.text ++ ending.beforeFeed) =
        line.record?.map fun r => (r.key, r.value) := by
      rw [parameter?_append_blank _ _ ending.blank, line.parameter?_text]
    rw [render, cutAt_append unbroken, List.filterMap_cons, read, ih, records, records,
      List.filterMap_cons]
    cases line <;> rfl

/-- **Parameter lists are read back.** Under a name there is the value of the last line that has
this name as its key, and nothing if no line has it: there are no other names. -/
theorem find?_parameters_render (lines : List (Line × Ending)) (name : String) :
    (parameters (String.ofList (render lines))).find? name =
      ((records lines).filter (·.key = name.toList)).getLast?.map fun r =>
        String.ofList r.value := by
  have read : (Text.lines (render lines)).filterMap parameter? =
      (records lines).map fun r => (r.key, r.value) := by
    rw [filterMap_lines rfl parameter?_append_blank, filterMap_cutAt_render]
  have entered : parameters (String.ofList (render lines)) =
      ((records lines).map fun r => (String.ofList r.key, String.ofList r.value)).foldl
        (fun found e => found.insert e.1 e.2) .empty := by
    rw [parameters, String.toList_ofList, read, List.foldl_map, List.foldl_map]
  have same (r : Record) : String.ofList r.key = name ↔ r.key = name.toList := by
    constructor
    · rintro rfl
      exact String.toList_ofList.symm
    · intro key
      rw [key, String.ofList_toList]
  rw [entered, Registry.find?_foldl_insert, Registry.find?_empty, Option.or_none, List.filter_map,
    List.getLast?_map, Option.map_map]
  simp only [Function.comp_def, same]

/-- A parameter with a parenthesis in its key and others in its value. -/
def oldEntry : Record where
  indent := []
  key := "key (old".toList
  gap := [' ']
  access := " RW".toList
  beforeColon := [' ']
  afterColon := [' ']
  value := "x: (1)".toList
  blank := by simp [Blank, isBlank]
  named := by simp
  key_trimmed := by simp [Trimmed, isBlank]
  key_plain := by simp
  access_plain := by simp
  value_trimmed := by simp [Trimmed, isBlank]
  value_plain := by simp

def emptyEntry : Record :=
  { oldEntry with
    indent := ['\t']
    value := []
    blank := by simp [oldEntry, Blank, isBlank]
    value_trimmed := by simp [Trimmed, isBlank]
    value_plain := by simp }

/-- The parameter is there twice, with a line between that is no parameter. -/
theorem find?_parameters_given_twice :
    let found := parameters "key (old ( RW) : x: (1)\r\nno (parameter\n\tkey (old ( RW) : \n"
    found.find? "key (old" = some "" ∧ ∀ name, name ≠ "key (old" → found.find? name = none := by
  intro found
  let lines : List (Line × Ending) :=
    [(.record oldEntry, .returnFeed), (.noise "no (parameter".toList (by simp), .feed),
      (.record emptyEntry, .feed)]
  have written : found = parameters (String.ofList (render lines)) := rfl
  have read := find?_parameters_render lines
  rw [written]
  have named : ∀ r ∈ records lines, r.key = "key (old".toList := by decide +kernel
  refine ⟨(read _).trans (by decide +kernel), fun name other => (read name).trans ?_⟩
  have nothing : (records lines).filter (·.key = name.toList) = [] := by
    refine List.filter_eq_nil_iff.2 fun r mem => ?_
    rw [named r mem, decide_eq_true_iff, String.toList_inj]
    exact other.symm
  rw [nothing]
  rfl

end Testbed.Xe
