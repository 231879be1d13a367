import Testbed.Rehearsal.Machine.Shell.Engine
import Testbed.Rehearsal.Machine.Shell.Expansion
/-!
# Reading lines and options

The commands of the shell that set variables by a line of input, or by the arguments.
-/
namespace Testbed.Rehearsal.Machine.Shell

open Sh

/-- The characters of a line, with what a backslash stood before; whether the line has an end. -/
def readLine (raw : Bool) : Nat → Sh (List Glob.Marked × Bool)
  | 0 => return ([], false)
  | fuel + 1 => do
    match ← sys (.read 0 1) with
    | .ok ['\n'] => return ([], true)
    | .ok ['\\'] =>
      if raw then
        let (rest, ended) ← readLine raw fuel
        return (('\\', false) :: rest, ended)
      match ← sys (.read 0 1) with
      | .ok ['\n'] => readLine raw fuel
      | .ok [c] => do
        let (rest, ended) ← readLine raw fuel
        return ((c, true) :: rest, ended)
      | _ => return ([], false)
    | .ok [c] => do
      let (rest, ended) ← readLine raw fuel
      return (if c = '\x00' then rest else (c, false) :: rest, ended)
    | _ => return ([], false)

/-- The fields of a line for so many variables: the last one gets all the rest. -/
def lineFields (separators : List Char) : Nat → List Glob.Marked → List String
  | 0, _ => []
  | count + 1, cs =>
    let isBlank (c : Glob.Marked) : Bool :=
      !c.2 && separators.contains c.1 && (c.1 = ' ' || c.1 = '\t' || c.1 = '\n')
    let isSeparator (c : Glob.Marked) : Bool := !c.2 && separators.contains c.1
    let cs := cs.dropWhile isBlank
    let plain (cs : List Glob.Marked) : String := String.ofList (cs.map (·.1))
    let field := cs.takeWhile (!isSeparator ·)
    let behind := (cs.drop field.length).dropWhile isBlank
    let rest := match behind with
      | c :: rest => if isSeparator c then rest.dropWhile isBlank else behind
      | [] => []
    if count = 0 then
      if rest.isEmpty then [plain field]
      else [plain (cs.reverse.dropWhile isBlank).reverse]
    else plain field :: lineFields separators count rest

def readCommand : Builtin := fun _ _ arguments => do
  let (letters, names) ← options ['r'] ['p'] (arguments.length + 1) arguments
  if names.isEmpty then fail "arg count"
  let (line, ended) ← readLine (letters.any (·.1 = 'r')) 10000000
  let fields := lineFields (separators (← get)) names.length line
  for (name, n) in names.zip (List.range names.length) do
    unless isName name.toList do fail s!"{name}: bad variable name"
    setVariable name (fields[n]?.getD "")
  return if ended then 0 else 1

/-- Looks for the next option among arguments, of which `place` is the number of the next one. -/
def getoptsCommand : Builtin := fun _ _ arguments => do
  match arguments with
  | known :: name :: rest =>
    let s ← get
    let row := if rest.isEmpty then s.arguments else rest
    let place := max 1 ((s.value? "OPTIND").bind number? |>.getD 1)
    let (place, letter) := if row.length + 1 < place then (1, 0) else (place, s.letter)
    let quiet := known.toList.head? = some ':'
    let finish (place letter : Nat) (found : String) (status : Nat) : Sh Nat := do
      setVariable "OPTIND" (Text.decimal place)
      setVariable name found
      modify fun s => { s with letter }
      return status
    -- the word that is being looked at, and what is left of it
    let current : List Char := if letter = 0 then [] else
      ((row[place - 2]?).getD "").toList.drop letter
    let opened : Option (List Char × Nat × Nat) :=
      if !current.isEmpty then some (current, place, letter)
      else match row[place - 1]? with
        | some word =>
          match word.toList with
          | '-' :: c :: rest =>
            if c = '-' && rest.isEmpty then none else some (c :: rest, place + 1, 1)
          | _ => none
        | none => none
    match opened with
    | none => finish (if row[place - 1]? = some "--" then place + 1 else place) 0 "?" 1
    | some ([], place, _) => finish place 0 "?" 1
    | some (c :: behind, place, letter) =>
      let spec := known.toList.dropWhile (· ≠ c)
      if spec.isEmpty || c = ':' then
        if quiet then setVariable "OPTARG" c.toString
        else
          let _ ← write 2 s!"Illegal option -{c}\n"
          unsetVariable "OPTARG"
        finish place (if behind.isEmpty then 0 else letter + 1) "?" 0
      else if spec.drop 1 |>.head? |>.any (· = ':') then
        match behind, row[place - 1]? with
        | [], none =>
          if quiet then
            setVariable "OPTARG" c.toString
            finish place 0 ":" 0
          else
            let _ ← write 2 s!"No arg for -{c} option\n"
            unsetVariable "OPTARG"
            finish place 0 "?" 0
        | [], some word =>
          setVariable "OPTARG" word
          finish (place + 1) 0 c.toString 0
        | text, _ =>
          setVariable "OPTARG" (String.ofList text)
          finish place 0 c.toString 0
      else
        setVariable "OPTARG" ""
        finish place (if behind.isEmpty then 0 else letter + 1) c.toString 0
  | _ => fail "Usage: getopts optstring var [arg...]"

end Testbed.Rehearsal.Machine.Shell
