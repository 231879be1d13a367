import Testbed.Rehearsal.Machine.Printf
import Testbed.Rehearsal.Machine.Shell.Condition
import Testbed.Rehearsal.Machine.Tool.Act
/-!
# Tools that say something

Programs whose output depends on their arguments alone, or almost: words, numbers, names and
conditions.
-/
namespace Testbed.Rehearsal.Machine.Tool

open Act

def echo : Tool := fun arguments => do
  let isOption (text : String) : Bool :=
    match text.toList with
    | '-' :: c :: rest => (c :: rest).all fun c => ['n', 'e', 'E'].contains c
    | _ => false
  let letters := (arguments.takeWhile isOption).flatMap fun text => text.toList.tail
  let words := Text.join " " (arguments.dropWhile isOption)
  let escapes := letters.foldl (fun on c => if c = 'e' then true else if c = 'E' then false else on)
    false
  let (text, stopped) :=
    if escapes then Printf.unescape { hex := true } (words.length + 1) words.toList
    else (words.toList, false)
  put 1 (text ++ if letters.contains 'n' || stopped then [] else ['\n'])

/-- How tools tell of arguments that do not fit a format. -/
def printfManner : Printf.Manner where
  dialect := { hex := true, quote := true }
  double := false
  sizes := true
  noNumber text := s!"{inQuotes text}: expected a numeric value"
  halfNumber text := s!"{inQuotes text}: value not completely converted"
  outOfRange text := s!"{inQuotes text}: Numerical result out of range"
  badDirective text := s!"{text}: invalid conversion specification"

def printf : Tool := fun arguments => do
  let arguments := if arguments.head? = some "--" then arguments.tail else arguments
  match arguments with
  | [] => misuse "missing operand"
  | format :: arguments =>
    let p := Printf.run printfManner format arguments
    for text in p.complaints do trouble text
    put 1 p.text
    match p.used, p.stopped, p.arguments with
    | false, false, first :: _ =>
      complain s!"warning: ignoring excess arguments, starting with {inQuotes first}"
    | _, _, _ => pure ()

def pwd : Tool := fun arguments => do
  let (_, _) ← (Grammar.ofLetters "LP" "").all arguments
  say s!"{← sys .directory}\n"

def printenv : Tool := fun arguments => do
  let (chosen, names) ← (Grammar.ofLetters "0" "").all arguments
  let mark := if chosen.has '0' then "\x00" else "\n"
  let vars := (← read).environment
  if names.isEmpty then
    for (name, value) in vars do say s!"{name}={value}{mark}"
  else
    for name in names do
      match vars.lookup name with
      | some value => say s!"{value}{mark}"
      | none => setStatus 1

/-- Says a line without end. -/
def yes : Tool := fun arguments => do
  let line := Text.join " " (if arguments.isEmpty then ["y"] else arguments) ++ "\n"
  let text := (List.replicate (8192 / line.length + 1) line.toList).flatten
  go text 1000000000
where
  go (text : List Char) : Nat → Act Unit
    | 0 => return ()
    | fuel + 1 => do
      match ← sys (.write 1 text) with
      | .ok _ => go text fuel
      | .error e => fail s!"standard output: {e.words.1}"

/-! ## Names -/

/-- A path without the slashes at its end. -/
def dropSlashes (cs : List Char) : List Char := (cs.reverse.dropWhile (· = '/')).reverse

/-- The last component of a path. -/
def lastComponent (path : String) : String :=
  let cs := dropSlashes path.toList
  if cs.isEmpty then (if path.isEmpty then "" else "/")
  else String.ofList (cs.reverse.takeWhile (· ≠ '/')).reverse

def basename : Tool := fun arguments => do
  let g : Grammar := { kinds := [⟨'a', "multiple", .nothing⟩, ⟨'s', "suffix", .argument⟩,
    ⟨'z', "zero", .nothing⟩], anywhere := false }
  let (chosen, names) ← g.all arguments
  let mark := if chosen.has 'z' then "\x00" else "\n"
  if names.isEmpty then misuse "missing operand"
  let many := chosen.has 'a' || chosen.has 's'
  if !many && 2 < names.length then misuse ("extra operand " ++ inQuotes (names[2]?.getD ""))
  let suffix := if many then chosen.text? 's' else names[1]?
  for name in (if many then names else names.take 1) do
    let base := (lastComponent name).toList
    let cut := match suffix.map String.toList with
      | some s =>
        if s.length < base.length && Text.startsWith s.reverse base.reverse then
          base.take (base.length - s.length)
        else base
      | none => base
    put 1 (cut ++ mark.toList)

def dirname : Tool := fun arguments => do
  let (chosen, names) ← ({ kinds := [⟨'z', "zero", .nothing⟩] } : Grammar).all arguments
  if names.isEmpty then misuse "missing operand"
  for name in names do
    let cs := (dropSlashes name.toList).reverse.dropWhile (· ≠ '/')
    let dir := dropSlashes cs.reverse
    let dir := if !dir.isEmpty then dir else if name.toList.head? = some '/' then ['/'] else ['.']
    put 1 (dir ++ [if chosen.has 'z' then '\x00' else '\n'])

/-! ## Time -/

/-- The nanoseconds of a time with a unit. -/
def interval? (text : String) : Option Nat :=
  match Printf.fraction? false text.toList with
  | some (.finite false value, rest) =>
    let unit? : Option Nat := match rest with
      | [] => some 1
      | ['s'] => some 1
      | ['m'] => some 60
      | ['h'] => some 3600
      | ['d'] => some 86400
      | _ => none
    unit?.map fun unit => value.numerator * unit * 1000000000 / value.denominator
  | some (.infinite false, []) => some (Nat.pow 10 30)
  | _ => none

def sleep : Tool := fun arguments => do
  let (_, times) ← ({ kinds := [] } : Grammar).all arguments
  if times.isEmpty then misuse "missing operand"
  for text in times do
    if (interval? text).isNone then complain s!"invalid time interval {inQuotes text}"
  if times.any fun text => (interval? text).isNone then
    let _ ← sys (.write 2 s!"Try '{← name} --help' for more information.\n".toList)
    quit 1
  sys (.sleep ((times.filterMap interval?).foldl (· + ·) 0))

/-! ## Numbers in a row -/

/-- A decimal number as a whole number of some unit of ten. -/
structure Scaled where
  value : Int
  places : Nat

/-- Reads a decimal number. -/
def scaled? (text : String) : Option Scaled :=
  match Printf.fraction? false text.toList with
  | some (.finite negative value, []) =>
    let places := ((text.toList.dropWhile (· ≠ '.')).drop 1 |>.takeWhile Char.isDigit).length
    let n : Nat := value.numerator * Nat.pow 10 places / value.denominator
    some ⟨if negative then -n else n, places⟩
  | _ => none

def Scaled.at (s : Scaled) (places : Nat) : Int := s.value * Nat.pow 10 (places - s.places)

/-- A number with places. -/
def placedText (n : Int) (places : Nat) : List Char :=
  (if n < 0 then ['-'] else []) ++ Printf.fixed ⟨n.natAbs, Nat.pow 10 places⟩ places false

/-- A number with zeros in front. -/
def widened (width : Nat) (text : List Char) : List Char :=
  let zeros := List.replicate (width - text.length) '0'
  match text with
  | '-' :: digits => '-' :: zeros ++ digits
  | digits => zeros ++ digits

/-- Writes the numbers from one on, in portions. -/
def sayNumbers (show_ : Int → List Char) (step last : Int) (mark : List Char) :
    Nat → Int → Array Char → Act Unit
  | 0, _, buffer => put 1 buffer.toList
  | fuel + 1, n, buffer => do
    let goesOn := if step < 0 then last ≤ n + step else n + step ≤ last
    let buffer := buffer ++ (show_ n).toArray ++ (if goesOn then mark else ['\n']).toArray
    if !goesOn then put 1 buffer.toList
    else if 4096 < buffer.size then
      put 1 buffer.toList
      sayNumbers show_ step last mark fuel (n + step) #[]
    else sayNumbers show_ step last mark fuel (n + step) buffer

def seq : Tool := fun arguments => do
  -- negative numbers are no options
  let isOption (text : String) : Bool :=
    match text.toList with
    | '-' :: c :: _ => !(c.isDigit || c = '.')
    | _ => false
  let g : Grammar := { kinds := [⟨'w', "equal-width", .nothing⟩, ⟨'s', "separator", .argument⟩,
    ⟨'f', "format", .argument⟩], anywhere := false }
  let rec split : Nat → List String → List String × List String
    | 0, rest => ([], rest)
    | fuel + 1, text :: rest =>
      if text = "-s" || text = "-f" || text = "--separator" || text = "--format" then
        let (more, behind) := split fuel (rest.drop 1)
        (text :: rest.take 1 ++ more, behind)
      else if isOption text then
        let (more, behind) := split fuel rest
        (text :: more, behind)
      else ([], text :: rest)
    | _, [] => ([], [])
  let (front, operands) := split (arguments.length + 1) arguments
  let (chosen, more) ← g.all front
  let operands := more ++ operands
  if operands.isEmpty then misuse "missing operand"
  if 3 < operands.length then misuse ("extra operand " ++ inQuotes (operands[3]?.getD ""))
  let number (text : String) : Act Scaled :=
    match scaled? text with
    | some n => return n
    | none => misuse s!"invalid floating point argument: {inQuotes text}"
  let one : Scaled := ⟨1, 0⟩
  let (first, step, last) ← match operands with
    | [last] => do pure (one, one, ← number last)
    | [first, last] => do
      let first ← number first
      pure (first, one, ← number last)
    | first :: step :: last :: _ => do
      let first ← number first
      let step ← number step
      pure (first, step, ← number last)
    | [] => pure (one, one, one)
  let places := max first.places step.places
  let common := max places last.places
  let (a, d, z) := (first.at common, step.at common, last.at common)
  if d = 0 then misuse ("invalid Zero increment value: " ++ inQuotes (operands[1]?.getD ""))
  let show_ (n : Int) : List Char := placedText (n / Nat.pow 10 (common - places)) places
  let width :=
    if chosen.has 'w' then
      max (show_ a).length (placedText (z / Nat.pow 10 (common - places)) places).length
    else 0
  let plain := match chosen.text? 'f' with
    | none => fun n => widened width (show_ n)
    | some format => fun n =>
      (Printf.run printfManner format [String.ofList (show_ n)]).text
  if (if d < 0 then z ≤ a else a ≤ z) then
    sayNumbers plain d z ((chosen.text? 's').getD "\n").toList 100000000 a #[]

/-! ## Conditions -/

/-- How `test` tells of arguments that are no condition. -/
def testManner : Condition.Manner where
  noNumber text := s!"invalid integer {inQuotes text}"
  noOperand text := s!"missing argument after {inQuotes text}"
  noOperator text := s!"extra argument {inQuotes text}"
  noClosing := "')' expected"
  absentIsOld := true

/-- Decides conditions by the number of their arguments, as far as that tells what they mean. -/
def decideByCount : Nat → List String → Act Bool
  | 0, _ => return false
  | fuel + 1, arguments => do
    let unary (operator operand : String) : Act Bool := do
      match Condition.kindOf? operator with
      | some .unary =>
        match ← task (Condition.decideIn testManner [operator, operand]) with
        | .ok value => return value
        | .error text => fail text 2
      | _ => fail s!"{inQuotes operator}: unary operator expected" 2
    let long : Act Bool := do
      match ← task (Condition.decideIn testManner arguments) with
      | .ok value => return value
      | .error text => fail text 2
    match arguments with
    | [] => return false
    | [text] => return !text.isEmpty
    | [a, b] =>
      if a = "!" then return !(← decideByCount fuel [b])
      else if a.length = 2 && a.toList.head? = some '-' then unary a b
      else fail s!"missing argument after {inQuotes b}" 2
    | [a, b, c] =>
      if Condition.kindOf? b = some .binary then long
      else if a = "!" then return !(← decideByCount fuel [b, c])
      else if a = "(" && c = ")" then decideByCount fuel [b]
      else if b = "-a" || b = "-o" then long
      else fail s!"{inQuotes b}: binary operator expected" 2
    | [a, b, c, d] =>
      if a = "!" then return !(← decideByCount fuel [b, c, d])
      else if a = "(" && d = ")" then decideByCount fuel [b, c]
      else long
    | _ => long

def test : Tool := fun arguments => do
  let arguments ← if (← name) = "[" then
      if arguments.getLast? = some "]" then pure arguments.dropLast
      else fail "missing ']'" 2
    else pure arguments
  unless ← decideByCount (arguments.length + 1) arguments do setStatus 1

/-- The tools of this module by their names. -/
def plainTools : List (String × Tool) :=
  [("[", test),
   ("basename", basename),
   ("dirname", dirname),
   ("echo", echo),
   ("false", fun _ => setStatus 1),
   ("printenv", printenv),
   ("printf", printf),
   ("pwd", pwd),
   ("seq", seq),
   ("sleep", sleep),
   ("test", test),
   ("true", fun _ => return ()),
   ("yes", yes)]

end Testbed.Rehearsal.Machine.Tool
