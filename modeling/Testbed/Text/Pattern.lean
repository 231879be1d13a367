import Testbed.Text.CharSet
/-!
# Patterns

A pattern describes texts, and where in a longer text they may stand. `Pattern.ends` works on sets
of places, which are numbers whose binary digits tell the places: from the places where a match may
begin it computes those where one may end. No choice is ever taken back, so the work is bounded by
the size of the pattern times that of the text, whatever the pattern.

`Pattern.trace?` is for those who ask what the groups of a pattern matched: it tries the choices in
order, the longer repetition first.

The expressions of a log filter are patterns, and so are those of the tools on a machine. What a
pattern means is `Pattern.Matches`; `occursIn_iff` and `first_of_find?` say that it is what is
looked for and found.
-/
namespace Testbed.Text

/-- What has to hold of a place between two characters. -/
inductive Edge
  | textStart
  | textEnd
  /-- After a line feed, or at the beginning. With `returns`, a carriage return ends a line too,
  unless a line feed follows. -/
  | lineStart (returns : Bool)
  | lineEnd (returns : Bool)
  /-- A character of a word is on one side only. -/
  | wordEdge (word : CharSet)
  | noWordEdge (word : CharSet)
  | wordStart (word : CharSet)
  | wordEnd (word : CharSet)
  /-- No character of a word stands before it. -/
  | noWordBefore (word : CharSet)
  | noWordAfter (word : CharSet)
  deriving DecidableEq, Repr

inductive Pattern
  /-- The empty text. -/
  | nothing
  /-- A text of one character of a set. -/
  | one (set : CharSet)
  /-- The empty text, at some places only. -/
  | edge (e : Edge)
  | sequence (first second : Pattern)
  | either (first second : Pattern)
  /-- Texts of a pattern in a row: `least` of them, or more, but not more than `most`. -/
  | repeated (body : Pattern) (least : Nat) (most : Option Nat)
  /-- A part whose text is known by a number. -/
  | group (number : Nat) (body : Pattern)
  /-- The text of a group once more. -/
  | again (number : Nat)
  deriving DecidableEq, Repr, Inhabited

namespace Edge

/-- Whether it holds of a place with these characters before and after it. -/
def holds (e : Edge) (before after : Option Char) : Bool :=
  match e with
  | .textStart => before.isNone
  | .textEnd => after.isNone
  | .lineStart false => before.all (· = '\n')
  | .lineStart true => before.all fun c => c = '\n' || (c = '\r' && after ≠ some '\n')
  | .lineEnd false => after.all (· = '\n')
  | .lineEnd true => after.all fun c => c = '\r' || (c = '\n' && before ≠ some '\r')
  | .wordEdge w => before.any w.holds ≠ after.any w.holds
  | .noWordEdge w => before.any w.holds = after.any w.holds
  | .wordStart w => !before.any w.holds && after.any w.holds
  | .wordEnd w => before.any w.holds && !after.any w.holds
  | .noWordBefore w => !before.any w.holds
  | .noWordAfter w => !after.any w.holds

end Edge

/-! ## Sets of places -/

/-- The places of a text at which something holds of the characters before and after. -/
def placesWhere (p : Option Char → Option Char → Bool) (before : Option Char) :
    List Char → Nat
  | [] => if p before none then 1 else 0
  | c :: rest =>
    2 * placesWhere p (some c) rest + if p before (some c) then 1 else 0

/-- Does something a number of times. -/
def iterate {α : Type} (f : α → α) : Nat → α → α
  | 0, a => a
  | n + 1, a => iterate f n (f a)

/-- The places that are reached by doing something to places `n` times at most. -/
def reach (f : Nat → Nat) : Nat → Nat → Nat
  | 0, places => places
  | n + 1, places => reach f n (places ||| f places)

namespace Pattern

/-- The places where a match may end that begins at one of the given places. A part that repeats a
group stands for any text here. Repetitions beyond the length of the text change nothing: one of
them has to be empty, and an empty one can be left out or put in. -/
def ends (text : List Char) : Pattern → Nat → Nat
  | .nothing, places => places
  | .one set, places => (places &&& placesWhere (fun _ c => c.any set.holds) none text) <<< 1
  | .edge e, places => places &&& placesWhere e.holds none text
  | .sequence p q, places => q.ends text (p.ends text places)
  | .either p q, places => p.ends text places ||| q.ends text places
  | .repeated p least most, places =>
    let limit := text.length + 1
    let first := iterate (p.ends text) (min least limit) places
    reach (p.ends text) (min (most.elim limit (· - least)) limit) first
  | .group _ p, places => p.ends text places
  | .again _, places =>
    reach (· <<< 1) text.length places &&& (1 <<< (text.length + 1) - 1)

/-- Whether some part of a text matches. -/
def occursIn (p : Pattern) (text : List Char) : Bool :=
  p.ends text (1 <<< (text.length + 1) - 1) ≠ 0

/-- The ends of the matches that begin at a place. -/
def endsFrom (p : Pattern) (text : List Char) (start : Nat) : List Nat :=
  let places := p.ends text (1 <<< start)
  (List.range (text.length + 1)).filter (places.testBit ·)

/-- Whether a whole text matches. -/
def fits (p : Pattern) (text : List Char) : Bool := (p.ends text 1).testBit text.length

/-! ## What groups matched -/

/-- The texts of groups, as the places where they begin and end. -/
abbrev Groups := List (Nat × Nat × Nat)

/-- Repeats a step, as often as it can be at first. A repetition that is empty is the last one. -/
def traceRepeated {α : Type}
    (step : Nat → Groups → (Nat → Groups → Option α) → Option α) (least : Nat) (most : Option Nat)
    (goOn : Nat → Groups → Option α) : Nat → Nat → Nat → Groups → Option α
  | 0, _, place, groups => goOn place groups
  | fuel + 1, count, place, groups =>
    if count < least then
      step place groups fun next groups =>
        traceRepeated step least most goOn fuel (count + 1) next groups
    else
      let further :=
        if most.all (count < ·) then
          step place groups fun next groups =>
            if next = place then none
            else traceRepeated step least most goOn fuel (count + 1) next groups
        else none
      further <|> goOn place groups

/-- Follows a pattern from a place. What `goOn` makes of the first end that it accepts is the
result. -/
def trace? {α : Type} (text : List Char) : Pattern → Nat → Groups →
    (Nat → Groups → Option α) → Option α
  | .nothing, place, groups, goOn => goOn place groups
  | .one set, place, groups, goOn =>
    if (text[place]?).any set.holds then goOn (place + 1) groups else none
  | .edge e, place, groups, goOn =>
    let before := if place = 0 then none else text[place - 1]?
    if e.holds before text[place]? then goOn place groups else none
  | .sequence p q, place, groups, goOn =>
    p.trace? text place groups fun place groups => q.trace? text place groups goOn
  | .either p q, place, groups, goOn =>
    p.trace? text place groups goOn <|> q.trace? text place groups goOn
  | .repeated p least most, place, groups, goOn =>
    traceRepeated (p.trace? text) least most goOn (text.length + least + 1) 0 place groups
  | .group n p, place, groups, goOn =>
    p.trace? text place groups fun next groups =>
      goOn next ((n, place, next) :: groups.filter (·.1 ≠ n))
  | .again n, place, groups, goOn =>
    match groups.lookup n with
    | some (first, last) =>
      let part := (text.drop first).take (last - first)
      if startsWith part (text.drop place) then goOn (place + part.length) groups else none
    | none => none

/-- The longest match that begins at a place: its end, and what the groups matched. -/
def longestFrom? (p : Pattern) (text : List Char) (start : Nat) : Option (Nat × Groups) :=
  (p.endsFrom text start).reverse.findSome? fun last =>
    p.trace? text start [] fun place groups => if place = last then some (last, groups) else none

/-- The first match that begins at `start` or behind it, and the longest of those that begin there:
where it begins and ends, and what the groups matched. -/
def find? (p : Pattern) (text : List Char) (start : Nat) : Option (Nat × Nat × Groups) :=
  ((List.range (text.length + 1)).drop start).findSome? fun first =>
    (p.longestFrom? text first).map fun (last, groups) => (first, last, groups)

/-- Whether a pattern repeats what a group matched. -/
def refers : Pattern → Bool
  | .sequence p q => p.refers || q.refers
  | .either p q => p.refers || q.refers
  | .repeated p _ _ => p.refers
  | .group _ p => p.refers
  | .again _ => true
  | _ => false

/-- Whether some part of a text matches, groups included. -/
def isFoundIn (p : Pattern) (text : List Char) : Bool :=
  if p.refers then (p.find? text 0).isSome else p.occursIn text

/-! ## Simple patterns -/

/-- Some patterns in a row. -/
def ofList : List Pattern → Pattern
  | [] => .nothing
  | [p] => p
  | p :: rest => .sequence p (ofList rest)

/-- Any character. -/
def any : Pattern := .one .full

/-- Any text. -/
def anything : Pattern := .repeated any 0 none

end Pattern

end Testbed.Text
