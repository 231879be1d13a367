import Testbed.Registry
import Testbed.Text.Pieces
/-!
# Arguments of a command line

Options begin with a hyphen, every other argument is an operand, and all that follows `--` is an
operand too. An option is given by its long name (`--host h`, `--host=h`) or its letter (`-H h`,
`-Hh`, `-H=h`); letters of options without a value may be put together. An option waits for its
value until another option begins, and stands for its default if none came.

`Grammar.scan` reads arguments up to the name of a task, `Grammar.accept` judges what was found.
-/
namespace Testbed.CommandLine

/-- What an option takes. -/
inductive Arity
  | flag
  /-- One value; the default stands in for a value that is not given. -/
  | one (default : Option String)
  /-- Any number of values, each time it is given. -/
  | many
  deriving DecidableEq, Repr

/-- An option, known by its long name. -/
structure Switch where
  name : String
  letter : Option Char := none
  arity : Arity := .flag
  required : Bool := false
  deriving DecidableEq, Repr

/-- The options and operands that are understood. -/
structure Grammar where
  switches : List Switch
  /-- The least number of operands. -/
  fewest : Nat := 0
  /-- Whether there may be any number of operands beyond that. -/
  unlimited : Bool := false

/-- Why arguments lead to no run. -/
inductive Refusal
  | notUnderstood
  /-- No task was named. -/
  | taskMissing
  /-- They ask how the program is used. -/
  | helpWanted
  /-- They ask for the version of the program, or of the task that is named. -/
  | versionWanted (task : Option String)
  deriving DecidableEq, Repr

/-- What a refusal among the arguments of a task comes to. -/
def Refusal.within (task : String) : Refusal → Refusal
  | .versionWanted _ => .versionWanted (some task)
  | refusal => refusal

/-- How an option was given. -/
structure Given where
  times : Nat := 0
  values : List String := []
  deriving DecidableEq, Repr

/-- What was found so far. -/
structure Scan where
  given : Registry Given := .empty
  operands : List String := []
  /-- The option whose values come next. -/
  waiting : Option Switch := none
  /-- Whether only operands follow. -/
  closed : Bool := false

namespace Scan

def givenTo (s : Scan) (w : Switch) : Given := (s.given.find? w.name).getD {}

/-- Notes that an option was given. -/
def note (s : Scan) (w : Switch) : Scan :=
  let g := s.givenTo w
  { s with given := s.given.insert w.name { g with times := g.times + 1 }, waiting := none }

/-- Gives a value to an option. One that takes many waits for more. -/
def take (s : Scan) (w : Switch) (value : String) : Scan :=
  let g := s.givenTo w
  { s with
    given := s.given.insert w.name { g with values := g.values ++ [value] }
    waiting := if w.arity = .many then some w else none }

/-- An option and the value right behind it, if any: after `=` it is the only one. -/
def option (s : Scan) (w : Switch) (attached : Option (List Char)) (equals : Bool) : Scan :=
  match attached with
  | none => { s.note w with waiting := some w }
  | some value =>
    let s := (s.note w).take w (String.ofList (value.dropWhile (· = '=')))
    if equals || value.head? = some '=' then { s with waiting := none } else s

end Scan

namespace Grammar

/-- An option by its long name. -/
def named? (g : Grammar) (name : String) : Option Switch := g.switches.find? (·.name = name)

/-- An option by its letter. -/
def lettered? (g : Grammar) (letter : Char) : Option Switch :=
  g.switches.find? (·.letter = some letter)

/-- Reads an argument that begins with two hyphens. A flag ignores what is said after `=`. -/
def scanLong (g : Grammar) (s : Scan) (arg : List Char) : Except Refusal Scan :=
  let text := arg.dropWhile (· = '-')
  let name := String.ofList (text.takeWhile (· ≠ '='))
  let value := if arg.contains '=' then some ((text.dropWhile (· ≠ '=')).drop 1) else none
  match g.named? name with
  | some w => .ok (if w.arity = .flag then s.note w else s.option w value value.isSome)
  | none =>
    .error (if name = "help" then .helpWanted
      else if name = "version" then .versionWanted none else .notUnderstood)

/-- Reads the letters behind one hyphen. What follows the letter of an option is its value. -/
def scanLetters (g : Grammar) (s : Scan) : List Char → Except Refusal Scan
  | [] => .ok s
  | c :: rest =>
    match g.lettered? c with
    | some w =>
      if w.arity = .flag then g.scanLetters (s.note w) rest
      else .ok (s.option w (if rest.isEmpty then none else some rest) false)
    | none =>
      .error (if c = 'h' then .helpWanted
        else if c = 'V' then .versionWanted none else .notUnderstood)

def scanOperand (g : Grammar) (s : Scan) (arg : String) : Except Refusal Scan :=
  if g.unlimited || s.operands.length < g.fewest then .ok { s with operands := s.operands ++ [arg] }
  else .error .notUnderstood

/-- Reads one argument. -/
def scanOne (g : Grammar) (s : Scan) (arg : String) : Except Refusal Scan :=
  if s.closed then g.scanOperand s arg
  else match arg.toList with
    | ['-', '-'] => .ok { s with closed := true }
    | '-' :: '-' :: rest => g.scanLong s rest
    | '-' :: c :: rest => g.scanLetters s (c :: rest)
    | _ =>
      match s.waiting with
      | some w => .ok (s.take w arg)
      | none => g.scanOperand s arg

/-- Reads arguments up to one that names a task, with what follows it. -/
def scan (g : Grammar) (isTask : String → Bool) (s : Scan) :
    List String → Except Refusal (Scan × Option (String × List String))
  | [] => .ok (s, none)
  | arg :: rest =>
    if !s.closed && s.waiting.isNone && isTask arg then .ok (s, some (arg, rest))
    else do g.scan isTask (← g.scanOne s arg) rest

/-- Whether an option was given as it has to be: once at most unless it takes many values, and with
a value unless it has a default. -/
def accepts (s : Scan) (w : Switch) : Bool :=
  match s.given.find? w.name, w.arity with
  | none, _ => !w.required
  | some g, .flag => g.times ≤ 1
  | some g, .one default => g.times ≤ 1 && (!g.values.isEmpty || default.isSome)
  | some g, .many => !g.values.isEmpty

/-- Whether what was found is all that is needed. -/
def accept (g : Grammar) (s : Scan) : Except Refusal Unit :=
  if g.switches.all (accepts s) && g.fewest ≤ s.operands.length then .ok ()
  else .error .notUnderstood

end Grammar

namespace Scan

def has (s : Scan) (name : String) : Bool := s.given.contains name

def values (s : Scan) (name : String) : List String := ((s.given.find? name).getD {}).values

/-- The value of an option, or its default. -/
def value? (s : Scan) (g : Grammar) (name : String) : Option String :=
  (s.values name).head? <|> (g.named? name).bind fun w =>
    match w.arity with
    | .one default => default
    | _ => none

end Scan

end Testbed.CommandLine
