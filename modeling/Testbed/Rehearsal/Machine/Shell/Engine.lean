import Testbed.Rehearsal.Machine.Shell.State
/-!
# The commands of a shell and the rest of it

What the commands that a shell runs by itself are given, and how they read their arguments and
speak.
-/
namespace Testbed.Rehearsal.Machine.Shell

open Sh

/-- What a command of the shell needs of the rest of it. -/
structure Engine where
  launch : Launch
  /-- Runs a text and tells how it ended. `tested` is a text whose failure is looked at. -/
  evaluate : (tested : Bool) → String → Sh Nat

/-- A command that a shell runs by itself: it tells how it ended. -/
abbrev Builtin := Engine → (tested : Bool) → List String → Sh Nat

/-- Says something on standard output. -/
def say (text : String) : Sh Unit := do
  unless ← write 1 text do
    unless (← get).unwritten do
      let name := (← get).command.getD ""
      complain s!"{name}: I/O error"
    modify fun s => { s with unwritten := true }

def isSpace (c : Char) : Bool := c = ' ' || ('\t' ≤ c && c ≤ '\r')

/-- A number as arguments give it. -/
def number? (text : String) : Option Nat :=
  let digits := match text.toList.dropWhile isSpace with
    | '+' :: rest => rest
    | rest => rest
  (Text.digits? digits).filter (· < Nat.pow 2 31)

def number (text : String) : Sh Nat :=
  match number? text with
  | some n => return n
  | none => fail s!"Illegal number: {text}"

/-- The options among arguments, with their texts, and the arguments behind them. -/
def options (plain withText : List Char) : Nat → List String →
    Sh (List (Char × String) × List String)
  | 0, arguments => return ([], arguments)
  | fuel + 1, arguments =>
    match arguments with
    | [] => return ([], [])
    | argument :: rest =>
      match argument.toList with
      | ['-'] => return ([], arguments)
      | ['-', '-'] => return ([], rest)
      | '-' :: letters => do
        let (found, rest) ← row letters rest
        let (more, rest) ← options plain withText fuel rest
        return (found ++ more, rest)
      | _ => return ([], arguments)
where
  row : List Char → List String → Sh (List (Char × String) × List String)
    | [], rest => return ([], rest)
    | c :: letters, rest => do
      if plain.contains c then
        let (more, rest) ← row letters rest
        return ((c, "") :: more, rest)
      else if withText.contains c then
        match letters, rest with
        | [], [] => fail s!"No arg for -{c} option"
        | [], text :: rest => return ([(c, text)], rest)
        | letters, rest => return ([(c, String.ofList letters)], rest)
      else fail s!"Illegal option -{c}"

/-- The arguments of a command that has options without texts only, and its options. -/
def letterOptions (plain : List Char) (arguments : List String) :
    Sh (List Char × List String) := do
  let (found, rest) ← options plain [] (arguments.length + 1) arguments
  return (found.map (·.1), rest)

/-- A text in single quotes, such that the shell reads it as it is. -/
def quoted (text : String) : String :=
  String.ofList ('\'' :: go (text.toList.length + 1) text.toList)
where
  go : Nat → List Char → List Char
    | 0, _ => ['\'']
    | fuel + 1, cs =>
      let front := cs.takeWhile (· ≠ '\'')
      let rest := cs.drop front.length
      let quotes := rest.takeWhile (· = '\'')
      let behind := rest.drop quotes.length
      if quotes.isEmpty then front ++ ['\'']
      else if behind.isEmpty then front ++ ['\'', '"'] ++ quotes ++ ['"']
      else front ++ ['\'', '"'] ++ quotes ++ ['"', '\''] ++ go fuel behind

/-- The number of a signal as the shell names it: by its number, or without anything in front. -/
def signal? (text : String) : Option Nat :=
  match Text.digits? text.toList with
  | some n => if n ≤ 64 then some n else none
  | none =>
    let name := text.toUpper
    if name = "EXIT" then some 0 else signals.lookup name

/-- What is said of a path that leads nowhere, or to nothing that can be used. -/
def wordsFor (missing : String) (e : OsError) : String :=
  match e with
  | .notFound => missing
  | .notADirectory => missing
  | e => e.words.1

/-- Why a program cannot be run. -/
def notFoundWords : OsError → String := wordsFor "not found"

/-- Why a file cannot be opened. -/
def noFileWords : OsError → String := wordsFor "No such file"

/-- Why a file cannot be made. -/
def noPlaceWords : OsError → String := wordsFor "Directory nonexistent"

/-- The path of the program that a name stands for, or why there is none. -/
def search (name : String) : Sh (Except OsError String) := do
  if name.toList.contains '/' then return .ok name
  let path := ((← get).value? "PATH").getD standardSearch
  let mut reason := OsError.notFound
  for path in candidates path name do
    match ← sys (.status path) with
    | .ok s =>
      if s.kind = .file && s.mode &&& 0o111 ≠ 0 then return .ok path
      reason := .denied
    | .error .notFound => pure ()
    | .error .notADirectory => pure ()
    | .error e => reason := e
  return .error reason

/-- Puts a program in the place of the shell. `command` is said of a failure. -/
def replaceBy (engine : Engine) (words : List String) : Sh Nat := do
  let name := words.head?.getD ""
  let s ← get
  let path := (s.value? "PATH").getD standardSearch
  let e ← if name.isEmpty then pure OsError.notFound
    else task (engine.launch.firstOf s.environment words false (candidates path name))
  complain s!"{name}: {notFoundWords e}"
  setStatus (if [OsError.notFound, .notADirectory, .nameTooLong].contains e then 127 else 126)
  throw .leave

end Testbed.Rehearsal.Machine.Shell
