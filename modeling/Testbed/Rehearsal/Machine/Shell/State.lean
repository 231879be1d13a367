import Testbed.Rehearsal.Machine.Shell.Job
import Testbed.Rehearsal.Machine.Shell.Script
/-!
# What a shell keeps

The variables, functions, arguments and options of a shell, and the monad in which it runs: what it
keeps is still there when a part of a script is left early.
-/
namespace Testbed.Rehearsal.Machine.Shell

structure Variable where
  value : Option String
  exported : Bool := false
  readOnly : Bool := false
  deriving DecidableEq, Repr

/-- The options that `set` turns on, by their letters. -/
structure Options where
  letters : List Char := []
  deriving DecidableEq, Repr

def Options.has (o : Options) (c : Char) : Bool := o.letters.contains c

def Options.turn (o : Options) (c : Char) (on : Bool) : Options :=
  ⟨o.letters.filter (· ≠ c) ++ if on then [c] else []⟩

/-- The names of the options. -/
def optionNames : List (String × Char) :=
  [("errexit", 'e'), ("noglob", 'f'), ("ignoreeof", 'I'), ("interactive", 'i'), ("monitor", 'm'),
   ("noexec", 'n'), ("stdin", 's'), ("xtrace", 'x'), ("verbose", 'v'), ("vi", 'V'), ("emacs", 'E'),
   ("noclobber", 'C'), ("allexport", 'a'), ("notify", 'b'), ("nounset", 'u'), ("privileged", 'p')]

structure State where
  name : String := "sh"
  arguments : List String := []
  vars : List (String × Variable) := []
  functions : List (String × Script) := []
  /-- What variables were before the functions that are running made them their own. -/
  scopes : List (List (String × Option Variable)) := []
  options : Options := {}
  /-- How the last command ended. -/
  status : Nat := 0
  /-- How the last script ended whose output became a part of the command that is running. -/
  substituted : Nat := 0
  /-- The process id of the outermost shell. -/
  pid : Nat := 0
  /-- The last process that was started in the background. -/
  background : Option Nat := none
  jobs : Jobs := []
  /-- What names stand for that scripts use in place of commands. -/
  aliases : List (String × String) := []
  /-- What is to be done about signals; the number zero is the end of the shell. -/
  traps : List (Nat × String) := []
  /-- Signals that came and were not yet attended to. -/
  pending : List Nat := []
  /-- Signals that were ignored from the beginning. -/
  deaf : List Nat := []
  loops : Nat := 0
  /-- How many functions, and texts that `.` reads, are running within one another. -/
  calls : Nat := 0
  line : Nat := 1
  /-- The command of the shell itself that is running. -/
  command : Option String := none
  /-- How many letters of the current argument `getopts` has looked at. -/
  letter : Nat := 0
  /-- What the status was before the trap that is running. -/
  before : Option Nat := none
  /-- Whether something could not be written that the command of the shell had to say. -/
  unwritten : Bool := false
  deriving Inhabited

/-- How a part of a script is left early. -/
inductive Jump
  /-- The shell ends with its status. -/
  | leave
  /-- Something went wrong. The shell ends too, unless it was in a command that may fail. -/
  | failed
  /-- A number of loops is left. -/
  | break_ (levels : Nat)
  /-- The loop goes on with its next turn, after some inner loops are left. -/
  | continue_ (levels : Nat)
  /-- The function, or the text that `.` reads, is left. -/
  | return_
  deriving DecidableEq, Repr

abbrev Sh (α : Type) := ExceptT Jump (StateT State Task) α

namespace Sh

def sys (c : Call) : Sh c.Answer := ExceptT.lift (StateT.lift (ask c))

def setStatus (n : Nat) : Sh Unit := modify fun s => { s with status := n }

/-- Writes to a descriptor; whether it could. -/
def write (fd : Nat) (text : String) : Sh Bool := do
  if text.isEmpty then return true
  match ← sys (.write fd text.toList) with
  | .ok _ => return true
  | .error _ => return false

/-- Tells of trouble: which shell, where, and in which of its own commands. -/
def complain (text : String) : Sh Unit := do
  let s ← get
  let command := (s.command.map (s!"{·}: ")).getD ""
  let line := Text.decimal s.line
  let _ ← write 2 s!"{s.name}: {line}: {command}{text}\n"

/-- Tells of trouble that ends the shell, as a rule. -/
def fail {α : Type} (text : String) : Sh α := do
  complain text
  setStatus 2
  throw .failed

/-- Does something outside of the shell. -/
def task {α : Type} (t : Task α) : Sh α := ExceptT.lift (StateT.lift t)

/-- Does something and goes on whether it jumps or not. -/
def caught {α : Type} (body : Sh α) : Sh (Except Jump α) := ExceptT.lift body.run

end Sh

open Sh

/-! ## Variables -/

/-- The value of an entry, and the entries with a new one. -/
def replaceEntry {α : Type} (name : String) (a : α) : List (String × α) → List (String × α)
  | [] => [(name, a)]
  | (n, b) :: rest => if n = name then (n, a) :: rest else (n, b) :: replaceEntry name a rest

namespace State

def value? (s : State) (name : String) : Option String :=
  (s.vars.lookup name).bind (·.value)

/-- The variables that programs are handed on. -/
def environment (s : State) : Environment :=
  s.vars.filterMap fun (name, v) => if v.exported then v.value.map (name, ·) else none

/-- The value of a parameter that holds one text. -/
def parameter? (s : State) (name : String) : Option String :=
  match name with
  | "?" => some (Text.decimal s.status)
  | "#" => some (Text.decimal s.arguments.length)
  | "$" => some (Text.decimal s.pid)
  | "!" => s.background.map Text.decimal
  | "0" => some s.name
  | "-" => some (String.ofList ((optionNames.map (·.2)).reverse.filter s.options.has))
  | _ =>
    match Text.digits? name.toList with
    | some n => if n = 0 then some s.name else s.arguments[n - 1]?
    | none => s.value? name

end State

/-- Sets a variable, unless it is to stay as it is. -/
def setVariable (name value : String) : Sh Unit := do
  let s ← get
  let old := (s.vars.lookup name).getD { value := none }
  if old.readOnly then fail s!"{name}: is read only"
  let exported := old.exported || s.options.has 'a'
  set { s with
    vars := replaceEntry name { old with value := some value, exported } s.vars
    letter := if name = "OPTIND" then 0 else s.letter }

def unsetVariable (name : String) : Sh Unit := do
  let s ← get
  if ((s.vars.lookup name).map (·.readOnly)).getD false then fail s!"{name}: is read only"
  set { s with vars := s.vars.filter (·.1 ≠ name) }

/-- Makes a variable one of the function that is running. -/
def localize (name : String) : Sh Unit := modify fun s =>
  match s.scopes with
  | [] => s
  | scope :: outer =>
    if scope.any (·.1 = name) then s
    else { s with scopes := ((name, s.vars.lookup name) :: scope) :: outer }

/-- Gives up the variables of the function that was running. -/
def leaveScope : Sh Unit := modify fun s =>
  match s.scopes with
  | [] => s
  | scope :: outer =>
    let vars := scope.foldl (fun vs (name, old) =>
      match old with
      | some v => replaceEntry name v vs
      | none => vs.filter (·.1 ≠ name)) s.vars
    { s with vars, scopes := outer }

end Testbed.Rehearsal.Machine.Shell
