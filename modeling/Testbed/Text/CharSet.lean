import Testbed.Text.Blank
import Testbed.Text.CharTable
import Testbed.Text.Pieces
/-!
# Sets of characters

Sets that are given by ranges of code points and put together by the operations on sets, and the
sets that have names: the properties of the Unicode standard, and the classes of the portable
character set, which are sets of ASCII characters.

`CharSet.folded` does not tell capital and small letters apart: it takes in a character if the set
has some character that folds to the same one.

The sets stand in patterns, where they are written as in the expressions of a log filter.
-/
namespace Testbed.Text

inductive CharSet
  /-- The characters with code points from the first to the second number of some pair. -/
  | ranges (runs : List (Nat × Nat))
  | union (a b : CharSet)
  | inter (a b : CharSet)
  | compl (a : CharSet)
  | folded (a : CharSet)
  deriving DecidableEq, Repr

/-! ## Reading the tables -/

def hexDigitValue (c : Char) : Nat :=
  if c.isDigit then c.toNat - '0'.toNat
  else if 'a' ≤ c && c ≤ 'f' then c.toNat - 'a'.toNat + 10
  else c.toNat - 'A'.toNat + 10

/-- The number that hexadecimal digits write. -/
def hexValue (digits : List Char) : Nat := digits.foldl (fun n c => n * 16 + hexDigitValue c) 0

/-- The entries of a table. -/
def entriesOf (table : List String) : List (List Char) :=
  table.flatMap fun line => cutAt ' ' line.toList

/-- The ranges of a table. -/
def rangesOf (table : List String) : List (Nat × Nat) :=
  (entriesOf table).filterMap fun entry =>
    match cutAt '-' entry with
    | [only] => some (hexValue only, hexValue only)
    | [first, last] => some (hexValue first, hexValue last)
    | _ => none

/-- A run of characters that fold in the same way: its first and last one, the step from one to the
next, and what the first folds to. -/
structure FoldRun where
  first : Nat
  last : Nat
  step : Nat
  image : Nat
  deriving DecidableEq, Repr

def foldRuns : List FoldRun :=
  (entriesOf CharTable.foldText).filterMap fun entry =>
    match (cutAt '-' entry).map hexValue with
    | [first, last, step, image] => some ⟨first, last, step, image⟩
    | _ => none

namespace FoldRun

/-- What a character folds to, if it is of the run. -/
def forward? (r : FoldRun) (n : Nat) : Option Nat :=
  if r.first ≤ n && n ≤ r.last && (n - r.first) % r.step = 0 then some (r.image + (n - r.first))
  else none

/-- The character of the run that folds to another. -/
def backward? (r : FoldRun) (n : Nat) : Option Nat :=
  if r.image ≤ n && n ≤ r.image + (r.last - r.first) && (n - r.image) % r.step = 0 then
    some (r.first + (n - r.image))
  else none

end FoldRun

/-- The character that stands for all that differ from it in case alone. -/
def foldCase (c : Char) : Char :=
  match foldRuns.findSome? (·.forward? c.toNat) with
  | some n => Char.ofNat n
  | none => c

/-- The characters that differ from one in case alone, itself among them. -/
def caseVariants (c : Char) : List Char :=
  let folded := foldCase c
  c :: folded :: (foldRuns.filterMap (·.backward? folded.toNat)).map Char.ofNat

namespace CharSet

/-- Whether a character is in a set. -/
def holds : CharSet → Char → Bool
  | .ranges runs, c => runs.any fun r => r.1 ≤ c.toNat && c.toNat ≤ r.2
  | .union a b, c => a.holds c || b.holds c
  | .inter a b, c => a.holds c && b.holds c
  | .compl a, c => !a.holds c
  | .folded a, c => (caseVariants c).any a.holds

/-- The set of no character. -/
def empty : CharSet := .ranges []

def full : CharSet := .compl empty

def single (c : Char) : CharSet := .ranges [(c.toNat, c.toNat)]

def ofChars (cs : List Char) : CharSet := .ranges (cs.map fun c => (c.toNat, c.toNat))

/-- The characters from one to another. -/
def range (first last : Char) : CharSet := .ranges [(first.toNat, last.toNat)]

/-- The characters that are in just one of two sets. -/
def symmDiff (a b : CharSet) : CharSet := .inter (.union a b) (.compl (.inter a b))

/-! ## Sets with names -/

def word : CharSet := .ranges (rangesOf CharTable.wordText)

def digit : CharSet := .ranges (rangesOf CharTable.digitText)

/-- The characters with the property `White_Space`. -/
def blank : CharSet :=
  .ranges [(0x9, 0xd), (0x20, 0x20), (0x85, 0x85), (0xa0, 0xa0), (0x1680, 0x1680),
    (0x2000, 0x200a), (0x2028, 0x2029), (0x202f, 0x202f), (0x205f, 0x205f), (0x3000, 0x3000)]

/-- The classes of ASCII characters, by their names between `[:` and `:]`. -/
def ofClass? : String → Option CharSet
  | "alnum" => some (.ranges [(0x30, 0x39), (0x41, 0x5a), (0x61, 0x7a)])
  | "alpha" => some (.ranges [(0x41, 0x5a), (0x61, 0x7a)])
  | "ascii" => some (.ranges [(0, 0x7f)])
  | "blank" => some (.ranges [(0x9, 0x9), (0x20, 0x20)])
  | "cntrl" => some (.ranges [(0, 0x1f), (0x7f, 0x7f)])
  | "digit" => some (.ranges [(0x30, 0x39)])
  | "graph" => some (.ranges [(0x21, 0x7e)])
  | "lower" => some (.ranges [(0x61, 0x7a)])
  | "print" => some (.ranges [(0x20, 0x7e)])
  | "punct" => some (.ranges [(0x21, 0x2f), (0x3a, 0x40), (0x5b, 0x60), (0x7b, 0x7e)])
  | "space" => some (.ranges [(0x9, 0xd), (0x20, 0x20)])
  | "upper" => some (.ranges [(0x41, 0x5a)])
  | "word" => some (.ranges [(0x30, 0x39), (0x41, 0x5a), (0x5f, 0x5f), (0x61, 0x7a)])
  | "xdigit" => some (.ranges [(0x30, 0x39), (0x41, 0x46), (0x61, 0x66)])
  | _ => none

/-- The table of a property whose name is in small letters, without blanks and joints. -/
def tableOf? : String → Option (List String)
  | "l" | "letter" | "alphabetic" | "alpha" => some CharTable.letterText
  | "lu" | "uppercaseletter" | "uppercase" | "upper" => some CharTable.upperText
  | "ll" | "lowercaseletter" | "lowercase" | "lower" => some CharTable.lowerText
  | "m" | "mark" | "combiningmark" => some CharTable.markText
  | "n" | "number" => some CharTable.numberText
  | "nd" | "decimalnumber" | "digit" => some CharTable.digitText
  | "p" | "punctuation" | "punct" => some CharTable.punctuationText
  | "s" | "symbol" => some CharTable.symbolText
  | "greek" | "grek" => some CharTable.greekText
  | "latin" | "latn" => some CharTable.latinText
  | "cyrillic" | "cyrl" => some CharTable.cyrillicText
  | "han" | "hani" => some CharTable.hanText
  | _ => none

/-- The set of a property. Its name may be written in capitals, with blanks, hyphens and lines in
it. -/
def ofProperty? (name : String) : Option CharSet :=
  let plain := String.ofList
    ((name.toList.filter fun c => c ≠ '_' && c ≠ '-' && !isBlank c).map Char.toLower)
  match tableOf? plain, plain with
  | some table, _ => some (.ranges (rangesOf table))
  | none, "any" => some full
  | none, "ascii" => ofClass? "ascii"
  | none, "whitespace" => some blank
  | none, "space" => some blank
  | none, "z" => some (.inter blank (.compl (.ranges [(0, 0x1f), (0x85, 0x85)])))
  | none, "separator" => some (.inter blank (.compl (.ranges [(0, 0x1f), (0x85, 0x85)])))
  | none, "cc" => some (.ranges [(0, 0x1f), (0x7f, 0x9f)])
  | none, "control" => some (.ranges [(0, 0x1f), (0x7f, 0x9f)])
  | none, "cntrl" => some (.ranges [(0, 0x1f), (0x7f, 0x9f)])
  | none, "alphanumeric" => some (.inter word (.compl (single '_')))
  | none, _ => none

end CharSet

end Testbed.Text
