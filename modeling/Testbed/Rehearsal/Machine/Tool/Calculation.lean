import Testbed.Rehearsal.Machine.Tool.Act
import Testbed.Rehearsal.Machine.Tool.Expression
/-!
# Calculation

The tool that evaluates an expression whose parts are its arguments. A value is a text. From the
loosest to the tightest, the operators are `|`, `&`, comparisons, sums, products and `:`, which
looks for a pattern at the beginning of a text.
-/
namespace Testbed.Rehearsal.Machine.Tool

open Act

/-- The arguments that are left, and the last one that was used. -/
structure Arguments where
  last : String
  rest : List String

/-- What happens while an expression is evaluated. -/
abbrev Calculate (α : Type) := StateT Arguments Act α

namespace Calculate

/-- Complains of the expression and ends. -/
def wrong {α : Type} (text : String) : Calculate α := StateT.lift (fail text 2)

/-- The next argument, which has to be there. -/
def take : Calculate String := do
  let s ← get
  match s.rest with
  | word :: rest =>
    set (⟨word, rest⟩ : Arguments)
    return word
  | [] => wrong s!"syntax error: missing argument after {inQuotes s.last}"

/-- Uses the next argument if it is one of some, and tells which. -/
def takeOne (words : List String) : Calculate (Option String) := do
  match (← get).rest with
  | word :: rest =>
    if words.contains word then
      set (⟨word, rest⟩ : Arguments)
      return some word
    else return none
  | [] => return none

/-- The whole number that a text is. -/
def integer? (text : String) : Option Int :=
  match text.toList with
  | '-' :: digits => (Text.digits? digits).map fun n => -(n : Int)
  | digits => (Text.digits? digits).map fun n => (n : Int)

/-- Whether a value counts as false: the empty text, and zero. -/
def isNull (text : String) : Bool :=
  let digits := match text.toList with
    | '-' :: c :: rest => c :: rest
    | cs => cs
  digits.all (· = '0')

def ofBool (b : Bool) : String := if b then "1" else "0"

def ofInt (n : Int) : String :=
  if n < 0 then "-" ++ Text.decimal n.natAbs else Text.decimal n.natAbs

def number (text : String) : Calculate Int :=
  match integer? text with
  | some n => return n
  | none => wrong "non-integer argument"

/-- The part of a text that a pattern finds at its beginning, or how long that is. -/
def matched (text pattern : String) : Calculate String := do
  match Expression.read {} pattern.toList with
  | .error e => wrong e.message
  | .ok w =>
    match w.pattern.longestFrom? text.toList 0, w.groups with
    | none, 0 => return "0"
    | none, _ => return ""
    | some (last, _), 0 => return Text.decimal last
    | some (_, groups), _ =>
      match groups.lookup 1 with
      | some (first, last) =>
        return String.ofList ((text.toList.drop first).take (last - first))
      | none => return ""

/-- Part of a text, counted from one. -/
def part (text place length : String) : String :=
  match integer? place, integer? length with
  | some p, some n =>
    if p ≤ 0 || n ≤ 0 then ""
    else String.ofList ((text.toList.drop (p.toNat - 1)).take n.toNat)
  | _, _ => ""

/-- The place of the first character of a text that is one of some, counted from one. -/
def placeOf (text some_ : String) : String :=
  match text.toList.findIdx? (some_.toList.contains ·) with
  | some i => Text.decimal (i + 1)
  | none => "0"

/-- What an operator makes of two values. -/
def combine (operator a b : String) : Calculate String := do
  match operator with
  | "+" => return ofInt ((← number a) + (← number b))
  | "-" => return ofInt ((← number a) - (← number b))
  | "*" => return ofInt ((← number a) * (← number b))
  | ":" => matched a b
  | "/" =>
    let (n, d) := (← number a, ← number b)
    if d = 0 then wrong "division by zero" else return ofInt (n.tdiv d)
  | "%" =>
    let (n, d) := (← number a, ← number b)
    if d = 0 then wrong "division by zero" else return ofInt (n.tmod d)
  | _ =>
    let order := match integer? a, integer? b with
      | some n, some m => compare n m
      | _, _ => compare a b
    return ofBool (match operator with
      | "<" => order = .lt
      | "<=" => order ≠ .gt
      | ">" => order = .gt
      | ">=" => order ≠ .lt
      | "!=" => order ≠ .eq
      | _ => order = .eq)

/-- The operators of each level, from the loosest on. -/
def levels : List (List String) :=
  [["|"], ["&"], ["<", "<=", "=", "==", "!=", ">=", ">"], ["+", "-"], ["*", "/", "%"], [":"]]

mutual

/-- A value, with operators that bind as tight as those of some level or tighter. Without `real` it
is read only, and nothing in it can be wrong but its form. -/
def level : Nat → List (List String) → (real : Bool) → Calculate String
  | 0, _, _ => return ""
  | fuel + 1, [], real => single fuel real
  | fuel + 1, operators :: tighter, real => do
    let first ← level fuel tighter real
    following fuel operators tighter real first

/-- What follows a value on its level. -/
def following : Nat → List String → List (List String) → Bool → String → Calculate String
  | 0, _, _, _, value => return value
  | fuel + 1, operators, tighter, real, value => do
    match ← takeOne operators with
    | none => return value
    | some operator =>
      let decided := (operator = "|" && !isNull value) || (operator = "&" && isNull value)
      let next ← level fuel tighter (real && !decided)
      let value ← if operator = "|" then
          pure (if !isNull value then value else if isNull next then "0" else next)
        else if operator = "&" then pure (if isNull value || isNull next then "0" else value)
        else if real then combine operator value next
        else pure value
      following fuel operators tighter real value

/-- A value without operators, or one that a word in front of it asks for. -/
def single : Nat → Bool → Calculate String
  | 0, _ => return ""
  | fuel + 1, real => do
    match ← take with
    | "+" => take
    | "length" => return Text.decimal (← single fuel real).length
    | "match" =>
      let text ← single fuel real
      let pattern ← single fuel real
      if real then matched text pattern else return text
    | "index" =>
      let text ← single fuel real
      return placeOf text (← single fuel real)
    | "substr" =>
      let text ← single fuel real
      let place ← single fuel real
      return part text place (← single fuel real)
    | "(" =>
      let value ← level fuel levels real
      match ← takeOne [")"], (← get).rest, (← get).last with
      | some _, _, _ => return value
      | none, [], last => wrong s!"syntax error: expecting ')' after {inQuotes last}"
      | none, word :: _, _ => wrong s!"syntax error: expecting ')' instead of {inQuotes word}"
    | ")" => wrong "syntax error: unexpected ')'"
    | word => return word

end

end Calculate

def expr : Tool := fun arguments => do
  let arguments := if arguments.head? = some "--" then arguments.tail else arguments
  if arguments.isEmpty then misuse "missing operand" 2
  let fuel := 20 * arguments.length + 20
  let (value, s) ← (Calculate.level fuel Calculate.levels true).run ⟨"expr", arguments⟩
  match s.rest with
  | word :: _ => fail s!"syntax error: unexpected argument {inQuotes word}" 2
  | [] =>
    say s!"{value}\n"
    if Calculate.isNull value then setStatus 1

/-- The tools of this module by their names. -/
def calculationTools : List (String × Tool) := [("expr", expr)]

end Testbed.Rehearsal.Machine.Tool
