import Testbed.Text.Blank
import Testbed.Text.Pieces
/-!
# Bare lists

The output of a command in its minimal form: items with commas between them. Blanks around an item
do not belong to it, and fields with nothing in them are no items.

| here | in the program |
| --- | --- |
| `listing` | `split_minimal` |
-/
namespace Testbed.Xe

/-- The items of a bare list. -/
def items (s : List Char) : List (List Char) :=
  ((Text.cutAt ',' (Text.trimChars s)).map Text.trimChars).filter (· ≠ [])

/-- `items` on strings. -/
def listing (s : String) : List String := (items s.toList).map String.ofList

end Testbed.Xe
