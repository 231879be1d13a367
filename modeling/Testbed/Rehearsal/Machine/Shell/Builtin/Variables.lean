import Testbed.Rehearsal.Machine.Shell.Engine
/-!
# Variables and options

The commands of the shell that set its variables, arguments and options, and show them.
-/
namespace Testbed.Rehearsal.Machine.Shell

open Sh

/-- Says the variables that a property picks, in the order of their names. -/
def showVariables (front : String) (chosen : Variable → Bool) (unset : Bool) : Sh Unit := do
  let rows := ((← get).vars.filter fun v => chosen v.2).mergeSort fun a b => a.1 ≤ b.1
  say (Text.join "" (rows.filterMap fun (name, v) =>
    match v.value with
    | some value => some s!"{front}{name}={quoted value}\n"
    | none => if unset then some s!"{front}{name}\n" else none))

/-- The name and the value in an argument. -/
def cutAssignment (text : String) : String × Option String :=
  let cs := text.toList
  let name := cs.takeWhile (· ≠ '=')
  (String.ofList name,
    if name.length < cs.length then some (String.ofList (cs.drop (name.length + 1))) else none)

/-- Changes what is known of a variable beside its value. -/
def markVariable (name : String) (mark : Variable → Variable) : Sh Unit := modify fun s =>
  { s with vars :=
      replaceEntry name (mark ((s.vars.lookup name).getD { value := none })) s.vars }

/-- Commands that set variables and mark them. -/
def marking (front : String) (chosen : Variable → Bool) (mark : Variable → Variable) : Builtin :=
  fun _ _ arguments => do
    let (letters, arguments) ← letterOptions ['p'] arguments
    if arguments.isEmpty || !letters.isEmpty then
      showVariables (front ++ " ") chosen true
      return 0
    for argument in arguments do
      let (name, value) := cutAssignment argument
      unless isName name.toList do fail s!"{name}: bad variable name"
      match value with
      | some value => setVariable name value
      | none => pure ()
      markVariable name mark
    return 0

def unsetCommand : Builtin := fun _ _ arguments => do
  let (letters, arguments) ← letterOptions ['v', 'f'] arguments
  for name in arguments do
    if letters.getLast? = some 'f' then
      modify fun s => { s with functions := s.functions.filter (·.1 ≠ name) }
    else if !isName name.toList then fail s!"{name}: bad variable name"
    else unsetVariable name
  return 0

def localCommand : Builtin := fun _ _ arguments => do
  if (← get).scopes.isEmpty then fail "not in a function"
  for argument in arguments do
    let (name, value) := cutAssignment argument
    unless argument = "-" do
      unless isName name.toList do fail s!"{name}: bad variable name"
      localize name
      match value with
      | some value => setVariable name value
      | none => pure ()
  return 0

def shiftCommand : Builtin := fun _ _ arguments => do
  let n ← match arguments with
    | text :: _ => number text
    | [] => pure 1
  let s ← get
  if s.arguments.length < n then fail "can't shift that many"
  set { s with arguments := s.arguments.drop n }
  return 0

/-- The option of a letter or name, turned on or off. -/
def turnOption (letter : Option Char) (on : Bool) (complaint : String) : Sh Unit := do
  match letter with
  | some c => modify fun s => { s with options := s.options.turn c on }
  | none => fail complaint

/-- Says how the options are set. -/
def showOptions (on : Bool) : Sh Unit := do
  let o := (← get).options
  let rows := optionNames ++ [("nolog", ' '), ("debug", ' ')]
  if on then
    say ("Current option settings\n" ++ Text.join "" (rows.map fun (name, c) =>
      name ++ String.ofList (List.replicate (16 - name.length) ' ') ++
        (if o.has c then "on" else "off") ++ "\n"))
  else
    say (Text.join "" (rows.map fun (name, c) =>
      (if o.has c then "set -o " else "set +o ") ++ name ++ "\n"))

/-- Sets options by the arguments of `set`; the arguments behind them, if there are any. -/
def setOptions : Nat → List String → Sh (Option (List String))
  | 0, _ => return none
  | fuel + 1, arguments =>
    match arguments with
    | [] => return none
    | argument :: rest =>
      match argument.toList with
      | ['-'] => do
        modify fun s => { s with options := (s.options.turn 'x' false).turn 'v' false }
        return if rest.isEmpty then none else some rest
      | ['-', '-'] => return some rest
      | sign :: letters => do
        if sign ≠ '-' && sign ≠ '+' then return some arguments
        let rest ← row (sign = '-') sign letters rest
        setOptions fuel rest
      | [] => return some arguments
where
  row (on : Bool) (sign : Char) : List Char → List String → Sh (List String)
    | [], rest => return rest
    | 'o' :: letters, rest => do
      match rest with
      | [] => showOptions on
      | name :: _ => turnOption (optionNames.lookup name) on s!"Illegal option {sign}o {name}"
      row on sign letters rest.tail
    | c :: letters, rest => do
      turnOption ((optionNames.find? (·.2 = c)).map (·.2)) on s!"Illegal option {sign}{c}"
      row on sign letters rest

def setCommand : Builtin := fun _ _ arguments => do
  if arguments.isEmpty then showVariables "" (fun _ => true) false
  else
    match ← setOptions (arguments.length + 1) arguments with
    | some rest => modify fun s => { s with arguments := rest, letter := 0 }
    | none => pure ()
  return 0

end Testbed.Rehearsal.Machine.Shell
