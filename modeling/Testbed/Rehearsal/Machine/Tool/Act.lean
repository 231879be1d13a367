import Testbed.Rehearsal.Machine.System
import Testbed.Text.Numeral
/-!
# What tools do

The monad of the small programs of a machine. A tool knows its name, reads its options, says things
and complains, and ends with a status of which zero means that all went well. It may end at once.
-/
namespace Testbed.Rehearsal.Machine

/-- What a tool is given. -/
structure Setting where
  name : String
  environment : Environment
  launch : Launch

/-- What a tool does, with its status so far. -/
abbrev Act (α : Type) := ReaderT Setting (ExceptT Nat (StateT Nat Task)) α

/-- A program that gets its arguments without its name. -/
abbrev Tool := List String → Act Unit

namespace Act

def task {α : Type} (t : Task α) : Act α := ReaderT.mk fun _ => ExceptT.lift (StateT.lift t)

def sys (c : Call) : Act c.Answer := task (ask c)

/-- Ends the tool with a status. -/
def quit {α : Type} (status : Nat) : Act α := throw status

/-- Sets the status. -/
def setStatus (status : Nat) : Act Unit := set status

def name : Act String := do return (← read).name

/-- Writes an error, under the tool's name. -/
def complain (text : String) : Act Unit := do
  let _ ← sys (.write 2 s!"{← name}: {text}\n".toList)

/-- Complains, and goes on with a status that tells of it. -/
def trouble (text : String) (status : Nat := 1) : Act Unit := do
  complain text
  setStatus status

/-- Complains and ends. -/
def fail {α : Type} (text : String) (status : Nat := 1) : Act α := do
  complain text
  quit status

/-- Complains of wrong use and ends. `named` tells whether the name of the tool stands before the
second line too. -/
def misuse {α : Type} (text : String) (status : Nat := 1) (named : Bool := false) : Act α := do
  complain text
  let name ← name
  let advice := s!"Try '{name} --help' for more information."
  if named then complain advice else
    let _ ← sys (.write 2 s!"{advice}\n".toList)
  quit status

/-- Writes to a descriptor. -/
def put (fd : Nat) (text : List Char) (status : Nat := 1) : Act Unit := do
  unless text.isEmpty do
    match ← sys (.write fd text) with
    | .ok _ => pure ()
    | .error e => fail s!"write error: {e.words.1}" status

/-- Writes to standard output. -/
def say (text : String) : Act Unit := put 1 text.toList

end Act

open Act

/-! ## Names in messages -/

/-- A byte that cannot be seen, or is no letter of the plainest kind, with a backslash. -/
def unseenForm (c : Char) : List Char :=
  match c with
  | '\n' => ['\\', 'n']
  | '\t' => ['\\', 't']
  | '\r' => ['\\', 'r']
  | '\x07' => ['\\', 'a']
  | '\x08' => ['\\', 'b']
  | '\x0b' => ['\\', 'v']
  | '\x0c' => ['\\', 'f']
  | c =>
    let digit (n : Nat) : Char := Nat.digitChar (n % 8)
    ['\\', digit (c.toNat / 64), digit (c.toNat / 8), digit c.toNat]

/-- A text in single quotes as the shell reads it. `unseen` tells whether what stands in front is in
quotes of the kind that allows backslashes. -/
def quotedTail : List Char → (unseen : Bool) → List Char
  | [], _ => ['\'']
  | c :: rest, unseen =>
    if c = '\'' then '\'' :: '\\' :: '\'' :: '\'' :: quotedTail rest false
    else if c < ' ' || 126 < c.toNat then
      (if unseen then [] else ['\'', '$', '\'']) ++ unseenForm c ++ quotedTail rest true
    else (if unseen then ['\'', '\''] else []) ++ c :: quotedTail rest false

/-- Whether a character means itself in all quotes. -/
def isPlain (c : Char) : Bool :=
  c.isAlphanum || "%+,-./:@_]\x7b\x7d".toList.contains c

/-- The words of something in a message, in quotes. -/
def inQuotes (text : String) : String :=
  let cs := text.toList
  if cs.contains '\'' && cs.all fun c => isPlain c || c = ' ' || c = '\'' then "\"" ++ text ++ "\""
  else String.ofList ('\'' :: quotedTail cs false)

/-- The words of a file's name in a message: quoted if the shell would read it in another way. -/
def shownName (name : String) : String :=
  let bare := !name.isEmpty && name.toList.all fun c => isPlain c || ['^', '#', '~'].contains c
  if bare && !(name.toList.head?.any ['#', '~'].contains) then name else inQuotes name

/-! ## Options -/

/-- Whether an option has an argument. -/
inductive Takes
  | nothing
  | argument
  /-- Only if it is joined to the option. -/
  | maybe
  deriving DecidableEq, Repr

/-- An option by its letter and its long name. Those without a letter have a sign of their own. -/
structure OptionKind where
  letter : Char
  long : String := ""
  takes : Takes := .nothing

/-- An option that was given, and its argument. -/
abbrev Chosen := List (Char × String)

namespace Chosen

def has (c : Chosen) (letter : Char) : Bool := c.any (·.1 = letter)

/-- The argument of the last of the options with a letter. -/
def text? (c : Chosen) (letter : Char) : Option String := c.reverse.lookup letter

/-- The last option that was given of some. -/
def lastOf (c : Chosen) (letters : List Char) : Option Char :=
  (c.reverse.find? (letters.contains ·.1)).map (·.1)

end Chosen

/-- How options are read. -/
structure Grammar where
  kinds : List OptionKind
  /-- Whether options may stand behind other arguments. -/
  anywhere : Bool := true
  /-- The status of wrong use. -/
  status : Nat := 1
  /-- Whether each line about wrong use begins with the name of the tool. -/
  named : Bool := false

namespace Grammar

/-- Options by letters alone, those with arguments behind the others. -/
def ofLetters (plain withText : String) (status : Nat := 1) : Grammar :=
  ⟨plain.toList.map (⟨·, "", .nothing⟩) ++ withText.toList.map (⟨·, "", .argument⟩), true, status,
    false⟩

/-- Complains of wrong use. -/
def misuse {α : Type} (g : Grammar) (text : String) : Act α := Act.misuse text g.status g.named

/-- The option of a long name, which may be cut short as long as it stays the only one. -/
def long (g : Grammar) (text : String) : Act OptionKind := do
  let fitting := g.kinds.filter fun k =>
    k.long ≠ "" && Text.startsWith text.toList k.long.toList
  match g.kinds.find? (fun k => k.long = text && text ≠ ""), fitting with
  | some k, _ => return k
  | none, [k] => return k
  | none, [] => g.misuse s!"unrecognized option '--{text}'"
  | none, many =>
    if many.all fun k => many.head?.any (·.letter = k.letter) then
      return many.head?.getD ⟨'?', "", .nothing⟩
    let names := Text.join "" (many.map fun k => s!" '--{k.long}'")
    g.misuse s!"option '--{text}' is ambiguous; possibilities:{names}"

/-- The options in a row of letters. -/
def row (g : Grammar) : List Char → List String → Act (Chosen × List String)
  | [], rest => return ([], rest)
  | c :: letters, rest => do
    match g.kinds.find? (·.letter = c) with
    | none => g.misuse s!"invalid option -- '{c}'"
    | some k =>
      match k.takes, letters, rest with
      | .nothing, letters, rest =>
        let (more, rest) ← g.row letters rest
        return ((c, "") :: more, rest)
      | .maybe, letters, rest => return ([(c, String.ofList letters)], rest)
      | .argument, [], text :: rest => return ([(c, text)], rest)
      | .argument, [], [] => g.misuse s!"option requires an argument -- '{c}'"
      | .argument, letters, rest => return ([(c, String.ofList letters)], rest)

/-- One argument that begins with two dashes. -/
def longRow (g : Grammar) (text : List Char) (rest : List String) :
    Act (Chosen × List String) := do
  let name := text.takeWhile (· ≠ '=')
  let k ← g.long (String.ofList name)
  match k.takes, text.drop name.length, rest with
  | .nothing, [], rest => return ([(k.letter, "")], rest)
  | .nothing, _, _ => g.misuse s!"option '--{k.long}' doesn't allow an argument"
  | _, _ :: value, rest => return ([(k.letter, String.ofList value)], rest)
  | .maybe, [], rest => return ([(k.letter, "")], rest)
  | .argument, [], value :: rest => return ([(k.letter, value)], rest)
  | .argument, [], [] => g.misuse s!"option '--{k.long}' requires an argument"

/-- The options among arguments, and the other arguments. -/
def read (g : Grammar) : Nat → List String → Act (Chosen × List String)
  | 0, arguments => return ([], arguments)
  | fuel + 1, arguments => do
    match arguments with
    | [] => return ([], [])
    | argument :: rest =>
      match argument.toList with
      | ['-', '-'] => return ([], rest)
      | '-' :: '-' :: text => do
        let (found, rest) ← g.longRow text rest
        let (more, rest) ← g.read fuel rest
        return (found ++ more, rest)
      | '-' :: c :: letters => do
        let (found, rest) ← g.row (c :: letters) rest
        let (more, rest) ← g.read fuel rest
        return (found ++ more, rest)
      | _ =>
        if g.anywhere then
          let (more, rest) ← g.read fuel rest
          return (more, argument :: rest)
        else return ([], arguments)

/-- The options among all arguments, and the other arguments. -/
def all (g : Grammar) (arguments : List String) : Act (Chosen × List String) :=
  g.read (arguments.length + 1) arguments

end Grammar

/-! ## Reading -/

/-- How many reads a stream may take. -/
def streamFuel : Nat := 100000000

/-- Reads a stream to its end. -/
def readStream : Nat → Nat → Array Char → Act (Except OsError (List Char))
  | 0, _, found => return .ok found.toList
  | fuel + 1, fd, found => do
    match ← sys (.read fd 65536) with
    | .ok [] => return .ok found.toList
    | .ok text => readStream fuel fd (found ++ text.toArray)
    | .error e => return .error e

/-- The content of a file, or of standard input for `-`. -/
def contentOf (path : String) (dash : Bool := true) : Act (Except OsError (List Char)) := do
  if path = "-" && dash then readStream streamFuel 0 #[]
  else
    match ← sys (.open path .read) with
    | .error e => return .error e
    | .ok fd =>
      let text ← readStream streamFuel fd #[]
      let _ ← sys (.close fd)
      return text

/-- The lines of a text without their ends, and whether the last one has an end. -/
def linesOf (text : List Char) (mark : Char := '\n') : List (List Char) × Bool :=
  if text.isEmpty then ([], true)
  else
    let pieces := Text.cutAt mark text
    if pieces.getLast? = some [] then (pieces.dropLast, true) else (pieces, false)

/-- Lines with their ends. -/
def joinLines (lines : List (List Char)) (mark : Char := '\n') : List Char :=
  lines.flatMap (· ++ [mark])

/-- The lines with their ends that a text consists of. -/
def wholeLines (text : List Char) : List (List Char) :=
  let (lines, ended) := linesOf text
  match lines.reverse with
  | [] => []
  | last :: before => (before.reverse.map (· ++ ['\n'])) ++ [if ended then last ++ ['\n'] else last]

/-- The arguments that name files, or standard input if there are none. -/
def inputsOf (files : List String) : List String := if files.isEmpty then ["-"] else files

/-- Writes a text into a file in place of what it held. -/
def writeFile (path : String) (text : List Char) : Act (Except OsError Unit) := do
  match ← sys (.open path .write) with
  | .error e => return .error e
  | .ok fd =>
    let result ← if text.isEmpty then pure (.ok ()) else sys (.write fd text)
    let _ ← sys (.close fd)
    return result

/-- Runs a tool as the program of a process: its status is the result. -/
def Tool.toTask (tool : Tool) (launch : Launch) (environment : Environment)
    (arguments : List String) : Task Nat := do
  let site : Setting := { name := arguments.head?.getD "", environment, launch }
  match ← (((tool arguments.tail).run site).run).run 0 with
  | (.ok _, status) => return status
  | (.error status, _) => return status

end Testbed.Rehearsal.Machine
