import Testbed.Rehearsal.Machine.Shell.Interpreter
/-!
# The shell as a program

How a shell is started: what its arguments ask for, the variables that it begins with, and the text
that it runs.
-/
namespace Testbed.Rehearsal.Machine.Shell

open Sh

/-- The variables of a shell that was given an environment. -/
def firstVariables (environment : Environment) (directory : String) (parent : Nat) :
    List (String × Variable) :=
  let given := (environment.filter fun v => isName v.1.toList).map fun (name, value) =>
    (name, { value := some value, exported := true : Variable })
  let own : List (String × String) :=
    [("IFS", " \t\n"), ("OPTIND", "1"), ("PPID", Text.decimal parent), ("PS1", "# "), ("PS2", "> "),
     ("PS4", "+ ")]
  let own := if given.any (·.1 = "PATH") then own else ("PATH", standardSearch) :: own
  let all := own.foldl (fun vs (name, value) => replaceEntry name { value := some value } vs) given
  let pwd : Variable := (all.lookup "PWD").getD { value := none }
  replaceEntry "PWD" { pwd with value := some directory } all

/-- What the arguments of a shell ask for. -/
structure Asked where
  options : Options := {}
  /-- Whether a text is given instead of a file. -/
  text : Bool := false
  /-- The arguments behind the options. -/
  rest : List String := []

/-- Reads the arguments of a shell. -/
def askedFor : Nat → List String → Asked → Except String Asked
  | 0, _, a => .ok a
  | fuel + 1, arguments, a =>
    match arguments with
    | [] => .ok { a with rest := [] }
    | argument :: rest =>
      match argument.toList with
      | ['-'] => .ok { a with rest }
      | ['-', '-'] => .ok { a with rest }
      | sign :: letters =>
        if sign = '-' || sign = '+' then do
          let (a, rest) ← row (sign = '-') sign letters rest a
          askedFor fuel rest a
        else .ok { a with rest := arguments }
      | [] => .ok { a with rest := arguments }
where
  row (on : Bool) (sign : Char) : List Char → List String → Asked →
      Except String (Asked × List String)
    | [], rest, a => .ok (a, rest)
    | 'c' :: letters, rest, a => row on sign letters rest { a with text := true }
    | 'l' :: letters, rest, a => row on sign letters rest a
    | 'o' :: letters, rest, a =>
      match rest with
      | [] => .ok (a, [])
      | name :: rest =>
        match optionNames.lookup name with
        | some c => row on sign letters rest { a with options := a.options.turn c on }
        | none => .error s!"Illegal option {sign}o {name}"
    | c :: letters, rest, a =>
      if optionNames.any (·.2 = c) then
        row on sign letters rest { a with options := a.options.turn c on }
      else .error s!"Illegal option {sign}{c}"

/-- The shell as a program: it runs a text, a file or its standard input. -/
def program (launch : Launch) (environment : Environment) (arguments : List String) : Task Nat := do
  let p := player launch
  let (pid, parent) ← ask .self
  let directory ← ask .directory
  let name := arguments.head?.getD "sh"
  let start : State :=
    { name, pid, vars := firstVariables environment directory parent, line := 0 }
  let main : Sh Unit := do
    let mut deaf := []
    for n in [1, 2, 3, 13, 15, 10, 12, 14] do
      if (← sys (.disposition n)) = .ignored then deaf := n :: deaf
    modify fun s => { s with deaf }
    match askedFor (arguments.length + 1) arguments.tail {} with
    | .error text => fail text
    | .ok a =>
      let run (text : String) : Sh Unit := do
        setStatus (← p.evaluate {} text)
      modify fun s => { s with options := a.options }
      if a.text then
        match a.rest with
        | [] => fail "-c requires an argument"
        | text :: rest =>
          modify fun s =>
            { s with name := rest.head?.getD s.name, arguments := rest.tail, line := 1 }
          run text
      else
        match a.options.has 's', a.rest with
        | false, path :: rest =>
          match ← sys (.open path .read) with
          | .error e => fail s!"cannot open {path}: {noFileWords e}"
          | .ok fd =>
            let text ← task (readAll fd 1000000 [])
            let _ ← sys (.close fd)
            modify fun s => { s with name := path, arguments := rest }
            run (String.ofList text)
        | _, rest =>
          modify fun s =>
            { s with arguments := rest, options := s.options.turn 's' true }
          run (String.ofList (← task (readAll 0 1000000 [])))
  let (_, _) ← ((p.toTheEnd main).run.run start : Task _)
  return 0

end Testbed.Rehearsal.Machine.Shell
