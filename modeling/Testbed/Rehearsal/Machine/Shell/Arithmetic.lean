import Testbed.Text.Numeral
import Testbed.Text.CharSet
/-!
# Arithmetic

Whole numbers of 64 bits with the operators that shells have. What is beyond the range wraps around.
An expression may set variables; in a part whose value does not matter it sets none.
-/
namespace Testbed.Rehearsal.Machine.Shell.Arithmetic

/-- What is wrong with an expression. -/
inductive Fault
  | expecting (what : String)
  | divisionByZero
  /-- A variable does not hold a number. -/
  | noNumber (text : String)
  deriving DecidableEq, Repr

def Fault.message (expression : String) : Fault → String
  | .expecting what => s!"arithmetic expression: expecting {what}: \"{expression}\""
  | .divisionByZero => s!"arithmetic expression: division by zero: \"{expression}\""
  | .noNumber text => s!"Illegal number: {text}"

/-- A number of 64 bits. -/
def wrap (n : Int) : Int := Int.bmod n (Nat.pow 2 64)

/-- The digits of a number in a base, and what follows. -/
def digitsIn (base : Nat) (cs : List Char) : List Char × List Char :=
  let fits (c : Char) : Bool :=
    if base = 16 then c.isDigit || ('a' ≤ c && c ≤ 'f') || ('A' ≤ c && c ≤ 'F')
    else c.isDigit && c.toNat - '0'.toNat < base
  (cs.takeWhile fits, cs.dropWhile fits)

/-- The number that a text begins with, kept within its range, and what follows: `0x` and `0` begin
numbers to base 16 and 8. -/
def number (cs : List Char) : Nat × List Char :=
  let value (base : Nat) (digits : List Char) : Nat :=
    min (digits.foldl (fun n c => n * base + Text.hexDigitValue c) 0) (Nat.pow 2 63 - 1)
  let (base, start) := match cs with
    | '0' :: 'x' :: rest => if (digitsIn 16 rest).1.isEmpty then (8, cs) else (16, rest)
    | '0' :: 'X' :: rest => if (digitsIn 16 rest).1.isEmpty then (8, cs) else (16, rest)
    | '0' :: _ => (8, cs)
    | cs => (10, cs)
  let (digits, rest) := digitsIn base start
  (value base digits, rest)

/-- Blanks of the portable character set. -/
def isSpace (c : Char) : Bool := c = ' ' || ('\t' ≤ c && c ≤ '\r')

/-- The number that a variable holds; one that is blank holds zero. -/
def valueOf (text : String) : Except Fault Int :=
  let cs := text.toList.dropWhile isSpace
  let (sign, digits) : Int × List Char := match cs with
    | '-' :: rest => (-1, rest)
    | '+' :: rest => (1, rest)
    | cs => (1, cs)
  let (n, rest) := if digits.head?.any Char.isDigit then number digits else (0, cs)
  if rest.all isSpace then .ok (sign * n) else .error (.noNumber text)

/-- The variables, and what is left of an expression. -/
structure Reader where
  rest : List Char
  vars : String → Option String
  /-- The variables that were set, the last one first. -/
  changes : List (String × Int) := []

abbrev Compute (α : Type) := StateT Reader (Except Fault) α

namespace Compute

def skip (count : Nat) : Compute Unit := modify fun r => { r with rest := r.rest.drop count }

/-- What is left behind blanks. -/
def rest : Compute (List Char) := do
  modify fun r => { r with rest := r.rest.dropWhile isSpace }
  return (← get).rest

def variableValue (name : String) : Compute Int := do
  let r ← get
  match r.changes.lookup name with
  | some n => return n
  | none =>
    match valueOf ((r.vars name).getD "") with
    | .ok n => return n
    | .error e => throw e

def setVariable (live : Bool) (name : String) (value : Int) : Compute Unit :=
  modify fun r => if live then { r with changes := (name, value) :: r.changes } else r

end Compute

open Compute

/-- The operators of two operands by what they bind, the tightest first. -/
def binaryOperators : List (String × Nat) :=
  [("*", 10), ("/", 10), ("%", 10), ("+", 9), ("-", 9), ("<<", 8), (">>", 8), ("<=", 7), (">=", 7),
   ("==", 6), ("!=", 6), ("&&", 2), ("||", 1), ("<", 7), (">", 7), ("&", 5), ("^", 4), ("|", 3)]

/-- The operators in the order in which they are looked for: longer ones come first. -/
def operators : List (String × Nat) :=
  binaryOperators.filter (·.1.length = 2) ++ binaryOperators.filter (·.1.length = 1)

/-- The operators that may stand before `=`. -/
def assigning : List String := ["*", "/", "%", "+", "-", "<<", ">>", "&", "^", "|"]

/-- The operator that comes next. One with `=` behind it sets a variable and is none. -/
def operator? (cs : List Char) : Option (String × Nat) :=
  operators.find? fun (op, _) =>
    Text.startsWith op.toList cs &&
      !(assigning.contains op && (cs.drop op.length).head? = some '=' &&
        (cs.drop (op.length + 1)).head? ≠ some '=')

def truth (b : Bool) : Int := if b then 1 else 0

/-- The value of an operation. -/
def apply (op : String) (a b : Int) : Except Fault Int :=
  let bits (f : UInt64 → UInt64 → UInt64) : Int :=
    wrap (f (UInt64.ofNat (a % Nat.pow 2 64).toNat) (UInt64.ofNat (b % Nat.pow 2 64).toNat)).toNat
  let amount : Nat := (b % 64).toNat
  match op with
  | "*" => .ok (wrap (a * b))
  | "/" => if b = 0 then .error .divisionByZero else .ok (wrap (a.tdiv b))
  | "%" => if b = 0 then .error .divisionByZero else .ok (a.tmod b)
  | "+" => .ok (wrap (a + b))
  | "-" => .ok (wrap (a - b))
  | "<<" => .ok (wrap (a * Nat.pow 2 amount))
  | ">>" => .ok (a / Nat.pow 2 amount)
  | "<" => .ok (truth (a < b))
  | "<=" => .ok (truth (a ≤ b))
  | ">" => .ok (truth (b < a))
  | ">=" => .ok (truth (b ≤ a))
  | "==" => .ok (truth (a = b))
  | "!=" => .ok (truth (a ≠ b))
  | "&" => .ok (bits (· &&& ·))
  | "^" => .ok (bits (· ^^^ ·))
  | "|" => .ok (bits (· ||| ·))
  | "&&" => .ok (truth (a ≠ 0 && b ≠ 0))
  | _ => .ok (truth (a ≠ 0 || b ≠ 0))

def isNameChar (c : Char) : Bool := c.isAlphanum || c = '_'

/-- The operator of an assignment behind a name, and its length: blank for a plain one. -/
def assignment? (cs : List Char) : Option (String × Nat) :=
  match cs with
  | '=' :: rest => if rest.head? = some '=' then none else some ("", 1)
  | cs =>
    (assigning.find? fun op =>
      Text.startsWith op.toList cs && (cs.drop op.length).head? = some '=').map fun op =>
        (op, op.length + 1)

mutual

/-- A whole expression. `live` tells whether its value matters. -/
def expression : Nat → Bool → Compute Int
  | 0, _ => throw (.expecting "primary")
  | fuel + 1, live => do
    let cs ← rest
    let name := cs.takeWhile isNameChar
    let isName := name.head?.any fun c => !c.isDigit
    match if isName then assignment? ((cs.drop name.length).dropWhile isSpace) else none with
    | some (op, length) =>
      skip name.length
      let _ ← rest
      skip length
      let value ← expression fuel live
      let name := String.ofList name
      let value ← if op = "" then pure value
        else if live then do
          match apply op (← variableValue name) value with
          | .ok n => pure n
          | .error e => throw e
        else pure 0
      setVariable live name value
      return value
    | none => conditional fuel live

/-- A choice by `?` and `:`. -/
def conditional : Nat → Bool → Compute Int
  | 0, _ => throw (.expecting "primary")
  | fuel + 1, live => do
    let condition ← binary fuel live 1
    match ← rest with
    | '?' :: _ =>
      skip 1
      let yes ← expression fuel (live && condition ≠ 0)
      match ← rest with
      | ':' :: _ => skip 1
      | _ => throw (.expecting "':'")
      let no ← conditional fuel (live && condition = 0)
      return if condition ≠ 0 then yes else no
    | _ => return condition

/-- Operations that bind as tightly as `level` or tighter. -/
def binary : Nat → Bool → Nat → Compute Int
  | 0, _, _ => throw (.expecting "primary")
  | fuel + 1, live, level => do
    let left ← unary fuel live
    further fuel live level left

/-- The operations that follow a left operand. -/
def further : Nat → Bool → Nat → Int → Compute Int
  | 0, _, _, left => return left
  | fuel + 1, live, level, left => do
    match operator? (← rest) with
    | some (op, tightness) =>
      if tightness < level then return left
      skip op.length
      let rightLive := live && !(op = "&&" && left = 0) && !(op = "||" && left ≠ 0)
      let right ← binary fuel rightLive (tightness + 1)
      let value ← if live then
          match if rightLive then apply op left right else .ok (truth (op = "||")) with
          | .ok n => pure n
          | .error e => throw e
        else pure 0
      further fuel live level value
    | none => return left

/-- An operand with the operators before it. -/
def unary : Nat → Bool → Compute Int
  | 0, _ => throw (.expecting "primary")
  | fuel + 1, live => do
    match ← rest with
    | '!' :: _ =>
      skip 1
      return truth ((← unary fuel live) = 0)
    | '~' :: _ =>
      skip 1
      return wrap (-(← unary fuel live) - 1)
    | '-' :: _ =>
      skip 1
      return wrap (-(← unary fuel live))
    | '+' :: _ =>
      skip 1
      unary fuel live
    | '(' :: _ =>
      skip 1
      let value ← expression fuel live
      match ← rest with
      | ')' :: _ => skip 1
      | _ => throw (.expecting "')'")
      return value
    | c :: cs =>
      if c.isDigit then
        let (n, after) := number (c :: cs)
        modify fun r => { r with rest := after }
        return n
      else if isNameChar c then
        let name := (c :: cs).takeWhile isNameChar
        skip name.length
        if live then variableValue (String.ofList name) else return 0
      else throw (.expecting "primary")
    | [] => throw (.expecting "primary")

end

/-- The value of an expression, and the variables that it sets in order. -/
def evaluate (vars : String → Option String) (text : List Char) :
    Except Fault (Int × List (String × Int)) := do
  let whole : Compute Int := do
    let value ← expression (4 * text.length + 10) true
    unless (← rest).isEmpty do throw (.expecting "EOF")
    return value
  let (value, r) ← whole.run { rest := text, vars }
  return (value, r.changes.reverse)

end Testbed.Rehearsal.Machine.Shell.Arithmetic
