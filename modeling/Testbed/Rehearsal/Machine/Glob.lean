import Testbed.Text.Pattern
/-!
# Wildcards

Patterns as the shell writes them: `*` is any text, `?` any character, `[a-z]` one of a set and
`[!a-z]` one of all others. Characters that were quoted stand for themselves.
-/
namespace Testbed.Rehearsal.Machine.Glob

open Text (Pattern CharSet)

/-- A character, and whether it was quoted. -/
abbrev Marked := Char × Bool

/-- Whether wildcards are among the characters. -/
def hasWildcards (cs : List Marked) : Bool :=
  cs.any fun c => !c.2 && ['*', '?', '['].contains c.1

/-- What stands between `[:` and `:]`, and what follows. -/
def className? (cs : List Marked) : Option (String × List Marked) :=
  let name := cs.takeWhile (·.1 ≠ ':')
  match cs.drop name.length with
  | (':', _) :: (']', _) :: rest => some (String.ofList (name.map (·.1)), rest)
  | _ => none

/-- The set up to a closing bracket, and what follows. Without a bracket there is no set. -/
def set? : Nat → Bool → List Marked → CharSet → Option (CharSet × List Marked)
  | 0, _, _, _ => none
  | _, _, [], _ => none
  | fuel + 1, first, (c, quoted) :: rest, found =>
    if c = ']' && !quoted && !first then some (found, rest)
    else
      let goOn (s : CharSet) (rest : List Marked) := set? fuel false rest (.union found s)
      let one : Option (CharSet × List Marked) :=
        match rest with
        | (':', _) :: inner =>
          if c = '[' && !quoted then
            (className? inner).bind fun (name, rest) =>
              (CharSet.ofClass? name).map fun s => (s, rest)
          else none
        | _ => none
      match one with
      | some (s, rest) => goOn s rest
      | none =>
        let (c, rest) := match c, quoted, rest with
          | '\\', false, (d, _) :: rest => (d, rest)
          | c, _, rest => (c, rest)
        match rest with
        | ('-', false) :: (last, q) :: rest =>
          if last = ']' && !q then goOn (.single c) (('-', false) :: (last, q) :: rest)
          else goOn (.range c last) rest
        | rest => goOn (.single c) rest

/-- The patterns of a row of characters. -/
def patterns : Nat → List Marked → List Pattern
  | 0, _ => []
  | _, [] => []
  | fuel + 1, (c, quoted) :: rest =>
    let literal : List Pattern := .one (.single c) :: patterns fuel rest
    if quoted then literal
    else match c with
      | '*' => .anything :: patterns fuel rest
      | '?' => .any :: patterns fuel rest
      | '\\' =>
        match rest with
        | (d, _) :: rest => .one (.single d) :: patterns fuel rest
        | [] => literal
      | '[' =>
        let (negated, inner) := match rest with
          | ('!', false) :: inner => (true, inner)
          | ('^', false) :: inner => (true, inner)
          | inner => (false, inner)
        match set? (inner.length + 1) true inner .empty with
        | some (s, rest) => .one (if negated then .compl s else s) :: patterns fuel rest
        | none => literal
      | _ => literal

/-- The pattern that a row of characters writes. -/
def pattern (cs : List Marked) : Pattern := .ofList (patterns (cs.length + 1) cs)

/-- Whether a name fits. One that begins with a point has to be meant. -/
def fitsName (cs : List Marked) (name : String) : Bool :=
  (name.toList.head? ≠ some '.' || cs.head?.map (·.1) = some '.') && (pattern cs).fits name.toList

end Testbed.Rehearsal.Machine.Glob
