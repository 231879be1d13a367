import Testbed.Rehearsal.Machine.System
import Testbed.Text.Numeral
/-!
# Conditions

What `test` and `[` decide: the arguments are an expression of operators and operands. An argument
that looks like an operator is one only where its neighbours leave no other meaning.
-/
namespace Testbed.Rehearsal.Machine.Condition

inductive Kind
  /-- Stands before its operand. -/
  | unary
  /-- Stands between its operands. -/
  | binary
  /-- Joins conditions. -/
  | joining
  deriving DecidableEq, Repr

/-- The operators and their kinds. -/
def operators : List (String × Kind) :=
  (["-r", "-w", "-x", "-e", "-f", "-d", "-c", "-b", "-p", "-u", "-g", "-k", "-s", "-t", "-z", "-n",
    "-h", "-L", "-S", "-O", "-G"].map (·, .unary)) ++
  (["=", "!=", "<", ">", "-eq", "-ne", "-ge", "-gt", "-le", "-lt", "-nt", "-ot", "-ef"].map
    (·, .binary)) ++
  (["!", "-a", "-o", "(", ")"].map (·, .joining))

def kindOf? (text : String) : Option Kind := operators.lookup text

/-- Whether a path leads to what an operator asks for. -/
def fileHas (operator : String) (path : String) : Task Bool := do
  let ofName := operator = "-h" || operator = "-L"
  match ← if ofName then ask (.statusOfName path) else ask (.status path) with
  | .error _ => return false
  | .ok s =>
    return match operator with
      | "-h" => s.target.isSome
      | "-L" => s.target.isSome
      | "-f" => s.kind = .file
      | "-d" => s.kind = .directory
      | "-s" => 0 < s.size
      | "-x" => s.kind = .directory || s.mode &&& 0o111 ≠ 0
      | "-c" => s.kind = .other && Text.startsWith "/dev/".toList s.identity.toList
      | "-p" => s.kind = .other && Text.startsWith "pipe".toList s.identity.toList
      | "-r" => true
      | "-w" => true
      | "-e" => true
      | "-O" => true
      | "-G" => true
      | "-u" => s.mode &&& 0o4000 ≠ 0
      | "-g" => s.mode &&& 0o2000 ≠ 0
      | "-k" => s.mode &&& 0o1000 ≠ 0
      | _ => false

/-- Compares two files: which was changed later, or whether they are the same. `absentIsOld` tells
whether a file that is not there is older than any other. -/
def filesCompare (absentIsOld : Bool) (operator first second : String) : Task Bool := do
  let a ← ask (.status first)
  let b ← ask (.status second)
  return match operator, a, b with
    | "-nt", .ok a, .ok b => b.time < a.time
    | "-nt", .ok _, .error _ => absentIsOld
    | "-ot", .ok a, .ok b => a.time < b.time
    | "-ot", .error _, .ok _ => absentIsOld
    | "-ef", .ok a, .ok b => a.identity = b.identity
    | _, _, _ => false

/-- A number that may stand among blanks. -/
def number? (text : String) : Option Int :=
  let isSpace (c : Char) : Bool := c = ' ' || ('\t' ≤ c && c ≤ '\r')
  let cs := (text.toList.dropWhile isSpace)
  let cs := (cs.reverse.dropWhile isSpace).reverse
  match cs with
  | '-' :: ds => (Text.digits? ds).map fun n => -(n : Int)
  | '+' :: ds => (Text.digits? ds).map fun n => (n : Int)
  | ds => (Text.digits? ds).map fun n => (n : Int)

def compareNumbers (operator : String) (a b : Int) : Bool :=
  match operator with
  | "-eq" => a = b
  | "-ne" => a ≠ b
  | "-gt" => a > b
  | "-ge" => a ≥ b
  | "-lt" => a < b
  | _ => a ≤ b

/-- How a program tells of what is wrong with its arguments. -/
structure Manner where
  noNumber : String → String
  /-- An operand has to follow the operator. -/
  noOperand : String → String
  /-- Something stands where only an operator can. -/
  noOperator : String → String
  noClosing : String
  /-- Whether a file that is not there is older than any other. -/
  absentIsOld : Bool

/-- Decides in a row of arguments, of which the first is the current one. -/
abbrev Decide (α : Type) := StateT (List String) (ExceptT String Task) α

def lift {α : Type} (t : Task α) : Decide α := StateT.lift (ExceptT.lift t)

/-- Whether the argument after an operator has to be read as an operand of another one. -/
def isOperand : List String → Bool
  | [] => true
  | _ :: [] => false
  | s :: t :: _ => kindOf? s = some .binary && t ≠ ")"

/-- What the first argument is: an operator, an operand or nothing. -/
inductive Lexeme
  | nothing
  | operator (text : String) (kind : Kind)
  | operand
  deriving DecidableEq, Repr

def lexeme : List String → Lexeme
  | [] => .nothing
  | s :: rest =>
    match kindOf? s with
    | some kind =>
      if kind = .unary && isOperand rest || s = "(" && rest.isEmpty then .operand
      else .operator s kind
    | none => .operand

/-- Whether the first argument is this operator. -/
def isJoining (text : String) (l : Lexeme) : Bool := l = .operator text .joining

/-- Compares the current argument with the one behind the operator that follows it. -/
def binary (m : Manner) : Decide Bool := do
  let number (text : String) : Decide Int :=
    match number? text with
    | some n => return n
    | none => throw (m.noNumber text)
  match ← get with
  | first :: operator :: second :: rest =>
    set (second :: rest)
    match operator with
    | "=" => return first = second
    | "!=" => return first ≠ second
    | "<" => return first < second
    | ">" => return second < first
    | _ =>
      if ["-nt", "-ot", "-ef"].contains operator then
        lift (filesCompare m.absentIsOld operator first second)
      else
        let a ← number first
        return compareNumbers operator a (← number second)
  | _ :: operator :: _ => throw (m.noOperand operator)
  | _ => return false

/-- An operator with its operands, a condition in parentheses, or a text that is not empty. -/
def primary (m : Manner) (whole : Lexeme → Decide Bool) (l : Lexeme) : Decide Bool := do
  match l with
  | .nothing => return false
  | .operator "(" _ => do
    modify List.tail
    let l := lexeme (← get)
    if isJoining ")" l then return false
    let value ← whole l
    modify List.tail
    unless isJoining ")" (lexeme (← get)) do throw m.noClosing
    return value
  | .operator operator .unary => do
    modify List.tail
    match ← get with
    | [] => throw (m.noOperand operator)
    | text :: _ =>
      match operator with
      | "-z" => return text.isEmpty
      | "-n" => return !text.isEmpty
      | "-t" =>
        if (number? text).isNone then throw (m.noNumber text)
        return false
      | _ => lift (fileHas operator text)
  | _ => do
    let row ← get
    match lexeme row.tail with
    | .operator _ .binary => binary m
    | _ => return (row.head?.map (!·.isEmpty)).getD false

/-- A condition that may be negated. -/
def negated (m : Manner) (whole : Lexeme → Decide Bool) : Nat → Lexeme → Decide Bool
  | 0, _ => return false
  | fuel + 1, l => do
    if isJoining "!" l then
      let next := lexeme (← get).tail
      if next ≠ .nothing then modify List.tail
      return !(← negated m whole fuel next)
    else primary m whole l

/-- Conditions that are joined by an operator, each of which is looked at. -/
def joined (operator : String) (part : Lexeme → Decide Bool) (combine : Bool → Bool → Bool) :
    Nat → Lexeme → Decide Bool
  | 0, _ => return false
  | fuel + 1, l => do
    let first ← part l
    if isJoining operator (lexeme (← get).tail) then
      modify fun row => row.drop 2
      return combine first (← joined operator part combine fuel (lexeme (← get)))
    else return first

/-- A whole condition. -/
def whole (m : Manner) : Nat → Lexeme → Decide Bool
  | 0, _ => return false
  | fuel + 1, l => do
    let length := (← get).length + 1
    let one := negated m (whole m fuel) length
    joined "-o" (joined "-a" one (· && ·) length) (· || ·) length l

/-- What the arguments of `test` decide, or what is wrong with them. -/
def decideIn (m : Manner) (arguments : List String) : Task (Except String Bool) := do
  let length := arguments.length
  let (row, first) : List String × Option Lexeme :=
    let plain : List String × Option Lexeme :=
      if arguments.head? = some "(" && arguments.getLast? = some ")" then
        (arguments.tail.dropLast, none)
      else if arguments.head? = some "!" then (arguments, some (.operator "!" .joining))
      else (arguments, none)
    if length = 3 then
      if (arguments[1]?.bind kindOf?) = some .binary then (arguments, some .operand) else plain
    else if length = 4 then plain
    else (arguments, none)
  if row.isEmpty then return .ok false
  match ← ((whole m (length + 1) (first.getD (lexeme row))).run row).run with
  | .error e => return .error e
  | .ok (value, rest) =>
    match rest with
    | text :: _ :: _ => return .error (m.noOperator text)
    | _ => return .ok value

end Testbed.Rehearsal.Machine.Condition
