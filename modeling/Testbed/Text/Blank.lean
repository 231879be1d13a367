/-!
# White space

`isBlank` is the Unicode property `White_Space`; `trim` removes the characters with it from
both ends of a text. Nothing else counts as white space here: no zero width space (U+200B) and
no byte order mark.

Main statement: `trim_of_trimmed`, a text without blanks at its ends is left alone.
-/
namespace Testbed.Text

/-- The characters with the Unicode property `White_Space`. -/
def isBlank (c : Char) : Bool :=
  ('\t' ≤ c && c ≤ '\r') || c = ' ' || c = '\u0085' || c = '\u00A0' || c = '\u1680' ||
    ('\u2000' ≤ c && c ≤ '\u200A') || c = '\u2028' || c = '\u2029' || c = '\u202F' ||
    c = '\u205F' || c = '\u3000'

/-- The text from its first character that is not blank. -/
def trimLeft (s : List Char) : List Char := s.dropWhile isBlank

/-- The text up to its last character that is not blank. -/
def trimRight (s : List Char) : List Char := (s.reverse.dropWhile isBlank).reverse

/-- The text without the blanks at its ends. -/
def trimChars (s : List Char) : List Char := trimRight (trimLeft s)

/-- No blank at either end. -/
def Trimmed (s : List Char) : Prop :=
  (∀ c ∈ s.head?, isBlank c = false) ∧ ∀ c ∈ s.getLast?, isBlank c = false

instance (s : List Char) : Decidable (Trimmed s) :=
  inferInstanceAs (Decidable ((∀ c ∈ s.head?, isBlank c = false) ∧
    ∀ c ∈ s.getLast?, isBlank c = false))

/-- `trimChars` on strings. -/
def trim (s : String) : String := String.ofList (trimChars s.toList)

/-- `trimRight` on strings. -/
def trimEnd (s : String) : String := String.ofList (trimRight s.toList)

theorem dropWhile_eq_self {p : Char → Bool} {s : List Char}
    (h : ∀ c ∈ s.head?, p c = false) : s.dropWhile p = s := by
  cases s with
  | nil => rfl
  | cons c s => simp [h c rfl]

theorem trim_of_trimmed {s : List Char} (h : Trimmed s) : trimChars s = s := by
  rw [trimChars, trimLeft, dropWhile_eq_self h.1, trimRight, dropWhile_eq_self,
    List.reverse_reverse]
  simpa [List.head?_reverse] using h.2

end Testbed.Text
