import Testbed.Registry
import Testbed.Text.Blank
import Testbed.Text.Lines
/-!
# Parameter lists

The parameters of an object are listed one in a line, `key ( RO)   : value`: the key, the access in
parentheses, a colon and the value, with blanks anywhere between them. The access ends at the first
closing parenthesis of the line and begins at the last opening one before it, so that a key may
hold opening parentheses and a value may hold any. Lines of any other form are skipped. Of two
lines with one key the later one counts.

| here | in the program |
| --- | --- |
| `parameters` | `parse_params` |
-/
namespace Testbed.Xe

/-- What stands before the first `c` and what stands after it. -/
def splitFirst (c : Char) : List Char → Option (List Char × List Char)
  | [] => none
  | d :: rest =>
    if d = c then some ([], rest)
    else (splitFirst c rest).map fun (before, after) => (d :: before, after)

/-- What stands before the last `c`. -/
def beforeLast (c : Char) (s : List Char) : Option (List Char) :=
  (splitFirst c s.reverse).map fun (_, before) => before.reverse

/-- The key and the value of a line, if it has the form of a parameter. -/
def parameter? (line : List Char) : Option (List Char × List Char) := do
  let (head, tail) ← splitFirst ')' line
  let value ← match Text.trimLeft tail with
    | ':' :: value => some (Text.trimChars value)
    | _ => none
  let key ← (beforeLast '(' head).map Text.trimChars
  if key = [] then none else some (key, value)

/-- The parameters of a listing. -/
def parameters (s : String) : Registry String :=
  ((Text.lines s.toList).filterMap parameter?).foldl
    (fun found (key, value) => found.insert (String.ofList key) (String.ofList value)) .empty

end Testbed.Xe
