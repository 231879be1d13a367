import Testbed.Rehearsal.Machine.Glob
import Testbed.Rehearsal.Machine.Tool.Expression
import Testbed.Rehearsal.Machine.Tool.Listing
import Testbed.Rehearsal.Machine.Tool.Starting
/-!
# Looking for files

The tool that walks through directories and decides for each thing there, by an expression, what is
to be done with it.
-/
namespace Testbed.Rehearsal.Machine.Tool

open Act

namespace Finding

/-- How a number is compared with the one in an argument: more, less or the same. -/
structure Bound where
  order : Ordering
  value : Nat

def Bound.holds (b : Bound) (n : Nat) : Bool := compare n b.value = b.order

/-- How the mode of a thing is compared with some bits. -/
inductive ModeTest
  | exactly
  | all
  | any
  deriving DecidableEq, Repr

/-- What is asked of a thing, or done with it. -/
inductive Step
  | always (answer : Bool)
  | name (pattern : List Char) (anyCase : Bool)
  | path (pattern : List Char) (anyCase : Bool)
  | regex (p : Text.Pattern)
  | kind (letters : List Char)
  | empty
  | size (b : Bound) (unit : Nat)
  | links (b : Bound)
  /-- The age in some unit of seconds. -/
  | age (b : Bound) (unit : Nat)
  | newer (time : Int)
  | mode (how : ModeTest) (bits : Nat)
  | print (mark : Char)
  | format (text : List Char)
  | list
  | delete
  | prune
  | quit
  /-- Runs a command; in the directory of the thing if that is asked for. -/
  | run (inPlace : Bool) (command : List String)
  /-- Runs a command at the end, for all things at once. -/
  | gather (number : Nat) (command : List String)
  | not (s : Step)
  | both (s t : Step)
  | either (s t : Step)
  /-- One after the other; the second one decides. -/
  | after (s t : Step)

namespace Step

/-- Whether something is done besides deciding. -/
def acts : Step → Bool
  | .print _ => true
  | .format _ => true
  | .list => true
  | .delete => true
  | .run _ _ => true
  | .gather _ _ => true
  | .quit => false
  | .not s => s.acts
  | .both s t => s.acts || t.acts
  | .either s t => s.acts || t.acts
  | .after s t => s.acts || t.acts
  | _ => false

end Step

/-! ## Reading -/

/-- What holds for the whole walk. -/
structure Limits where
  least : Nat := 0
  most : Option Nat := none
  deepFirst : Bool := false

/-- What is left of the arguments while the expression is read. -/
structure Reading where
  rest : List String
  limits : Limits := {}
  gathers : Nat := 0
  now : Int

abbrev Parse (α : Type) := StateT Reading Act α

def wrong {α : Type} (text : String) : Parse α := StateT.lift (fail text)

def next? : Parse (Option String) := do
  match (← get).rest with
  | [] => return none
  | word :: rest =>
    modify ({ · with rest })
    return some word

/-- The argument of a test. -/
def operand (name : String) : Parse String := do
  match ← next? with
  | some text => return text
  | none => wrong ("missing argument to \x60" ++ name ++ "'")

/-- A number with a sign that tells how it is compared, and a letter behind it perhaps. -/
def bound (name : String) : Parse (Bound × List Char) := do
  let text ← operand name
  let (order, cs) := match text.toList with
    | '+' :: cs => (Ordering.gt, cs)
    | '-' :: cs => (.lt, cs)
    | cs => (.eq, cs)
  let digits := cs.takeWhile Char.isDigit
  match Text.digits? digits with
  | some value => return (⟨order, value⟩, cs.drop digits.length)
  | none => wrong s!"invalid argument \x60{text}' to \x60{name}'"

/-- The words of a command, up to its end; whether that is a plus behind the place for names. -/
def command (name : String) : Nat → List String → Parse (List String × Bool)
  | 0, _ => wrong ("missing argument to \x60" ++ name ++ "'")
  | fuel + 1, words => do
    match ← next? with
    | none => wrong ("missing argument to \x60" ++ name ++ "'")
    | some ";" => return (words.reverse, false)
    | some "+" =>
      match words with
      | "\x7b\x7d" :: before => return (before.reverse, true)
      | _ => command name fuel ("+" :: words)
    | some word => command name fuel (word :: words)

/-- A test or an action by its name. -/
def primary (name : String) : Parse Step := do
  match name with
  | "-true" => return .always true
  | "-false" => return .always false
  | "-name" => return .name (← operand name).toList false
  | "-iname" => return .name (← operand name).toList true
  | "-path" => return .path (← operand name).toList false
  | "-wholename" => return .path (← operand name).toList false
  | "-ipath" => return .path (← operand name).toList true
  | "-regex" =>
    match Expression.read {} (← operand name).toList with
    | .ok w => return .regex w.pattern
    | .error e => wrong e.message
  | "-type" =>
    let text ← operand name
    let letters := text.toList.filter (· ≠ ',')
    match letters.find? fun c => !"fdlpscb".toList.contains c with
    | some c => wrong s!"Unknown argument to -type: {c}"
    | none => return .kind letters
  | "-empty" => return .empty
  | "-size" =>
    let (b, unit) ← bound name
    match unit with
    | ['c'] => return .size b 1
    | ['w'] => return .size b 2
    | ['k'] => return .size b 1024
    | ['M'] => return .size b 1048576
    | ['G'] => return .size b 1073741824
    | _ => return .size b 512
  | "-links" => return .links (← bound name).1
  | "-mtime" => return .age (← bound name).1 86400
  | "-mmin" => return .age (← bound name).1 60
  | "-atime" => return .age (← bound name).1 86400
  | "-ctime" => return .age (← bound name).1 86400
  | "-newer" =>
    let path ← operand name
    match ← StateT.lift (sys (.status path)) with
    | .ok s => return .newer s.time
    | .error e => wrong s!"{inQuotes path}: {e.words.1}"
  | "-perm" =>
    let text ← operand name
    let (how, mode) := match text.toList with
      | '-' :: cs => (ModeTest.all, String.ofList cs)
      | '/' :: cs => (.any, String.ofList cs)
      | _ => (.exactly, text)
    match Mode.read? 0 false 0 mode with
    | some bits => return .mode how bits
    | none => wrong s!"invalid mode {inQuotes text}"
  | "-executable" => return .mode .any 0o111
  | "-readable" => return .always true
  | "-writable" => return .always true
  | "-print" => return .print '\n'
  | "-print0" => return .print '\x00'
  | "-printf" => return .format (← operand name).toList
  | "-ls" => return .list
  | "-prune" => return .prune
  | "-quit" => return .quit
  | "-delete" =>
    modify fun r => { r with limits := { r.limits with deepFirst := true } }
    return .delete
  | "-depth" =>
    modify fun r => { r with limits := { r.limits with deepFirst := true } }
    return .always true
  | "-maxdepth" => depth fun n l => { l with most := some n }
  | "-mindepth" => depth fun n l => { l with least := n }
  | "-xdev" => return .always true
  | "-mount" => return .always true
  | "-noleaf" => return .always true
  | "-exec" => running false
  | "-execdir" => running true
  | "-ok" => running false
  | _ => wrong ("unknown predicate \x60" ++ name ++ "'")
where
  depth (change : Nat → Limits → Limits) : Parse Step := do
    let text ← operand name
    match Text.digits? text.toList with
    | some n =>
      modify fun r => { r with limits := change n r.limits }
      return .always true
    | none =>
      let words := "Expected a positive decimal integer argument to "
      wrong s!"{words}{name}, but got {inQuotes text}"
  running (inPlace : Bool) : Parse Step := do
    match ← command name ((← get).rest.length + 1) [] with
    | ([], _) => wrong ("missing argument to \x60" ++ name ++ "'")
    | (words, false) => return .run inPlace words
    | (words, true) =>
      let r ← get
      set { r with gathers := r.gathers + 1 }
      return .gather r.gathers words

/-- Whether a word begins an expression. -/
def opens (word : String) : Bool :=
  word = "(" || word = "!" || (word.toList.head? = some '-' && 1 < word.length)

mutual

/-- Alternatives, and what stands between commas. -/
def whole : Nat → Parse Step
  | 0 => return .always true
  | fuel + 1 => do
    let first ← alternatives fuel
    match (← get).rest with
    | "," :: rest =>
      modify ({ · with rest })
      return .after first (← whole fuel)
    | _ => return first

def alternatives : Nat → Parse Step
  | 0 => return .always true
  | fuel + 1 => do
    let first ← row fuel
    match (← get).rest with
    | word :: rest =>
      if word = "-o" || word = "-or" then
        modify ({ · with rest })
        if rest.isEmpty then wrong s!"expected an expression after '{word}'"
        return .either first (← alternatives fuel)
      else return first
    | [] => return first

def row : Nat → Parse Step
  | 0 => return .always true
  | fuel + 1 => do
    let first ← single fuel
    match (← get).rest with
    | [] => return first
    | word :: rest =>
      if word = "-a" || word = "-and" then
        modify ({ · with rest })
        if rest.isEmpty then wrong s!"expected an expression after '{word}'"
        return .both first (← row fuel)
      else if word = "-o" || word = "-or" || word = "," || word = ")" then return first
      else return .both first (← row fuel)

def single : Nat → Parse Step
  | 0 => return .always true
  | fuel + 1 => do
    match ← next? with
    | none => wrong "invalid expression"
    | some word =>
      if word = "!" || word = "-not" then
        if (← get).rest.isEmpty then wrong s!"expected an expression after '{word}'"
        return .not (← single fuel)
      else if word = "(" then
        let inner ← whole fuel
        match ← next? with
        | some ")" => return inner
        | _ =>
          let problem := "I was expecting to find a ')' somewhere but did not see one."
          wrong s!"invalid expression; {problem}"
      else if word = ")" then
        wrong "invalid expression; you have too many ')'"
      else if ["-o", "-or", "-a", "-and"].contains word then
        let problem := s!"you have used a binary operator '{word}' with nothing before it."
        wrong s!"invalid expression; {problem}"
      else if opens word then primary word
      else wrong ("paths must precede expression: \x60" ++ word ++ "'")

end

/-! ## Walking -/

/-- A thing that was found. -/
structure Found where
  path : String
  /-- The argument that it was found below. -/
  start : String
  depth : Nat
  status : Status

/-- What the walk has come to. -/
structure Walk where
  pruned : Bool := false
  done : Bool := false
  /-- The things that commands are run for at the end. -/
  gathered : List (Nat × String) := []

abbrev Go (α : Type) := StateT Walk Act α

def baseOf (path : String) : String := lastComponent path

/-- Runs a command for a thing, and tells whether it went well. -/
def runFor (inPlace : Bool) (words : List String) (path : String) : Act Bool := do
  let shown := if inPlace then "./" ++ baseOf path else path
  let mark := "\x7b\x7d".toList
  let words := words.map fun word =>
    String.ofList (replaced mark shown.toList (word.length + 1) word.toList)
  match ← sys .fork with
  | some pid => return (← awaitEnd pid) = .code 0
  | none =>
    if inPlace then
      let cs := path.toList
      let dir := cs.take (cs.length - (baseOf path).length)
      unless dir.isEmpty do
        let _ ← sys (.enter (String.ofList dir))
    let e ← become (← read).environment words
    let first := inQuotes (words.head?.getD "")
    complain s!"{first}: {e.words.1}"
    leave 1

/-- The kind of a thing as `-type` names it. -/
def letterOf (s : Status) : Char :=
  match kindLetter s with
  | '-' => 'f'
  | c => c

/-- What a directive of `-printf` stands for. -/
def directive (f : Found) (c : Char) : String :=
  match c with
  | 'p' => f.path
  | 'f' => baseOf f.path
  | 'h' =>
    let cs := f.path.toList
    let above := (cs.reverse.dropWhile (· ≠ '/')).drop 1
    if cs.contains '/' then String.ofList above.reverse else "."
  | 'P' => String.ofList ((f.path.toList.drop f.start.length).dropWhile (· = '/'))
  | 'H' => f.start
  | 'd' => Text.decimal f.depth
  | 's' => Text.decimal f.status.size
  | 'y' => (letterOf f.status).toString
  | 'm' => Mode.octal 1 f.status.mode
  | 'M' => (kindLetter f.status).toString ++ Mode.letters f.status.mode
  | 'n' => Text.decimal f.status.links
  | 'l' => f.status.target.getD ""
  | 'u' => "root"
  | 'g' => "root"
  | 'U' => "0"
  | 'G' => "0"
  | 'i' => Text.decimal (inodeOf f.status)
  | '%' => "%"
  | c => String.ofList ['%', c]

def formatted (f : Found) : Nat → List Char → List Char
  | 0, _ => []
  | _, [] => []
  | fuel + 1, '%' :: c :: rest => (directive f c).toList ++ formatted f fuel rest
  | fuel + 1, c :: rest => c :: formatted f fuel rest

/-- Whether a thing passes, with all that is done on the way. -/
def decide_ (now : Int) (f : Found) : Step → Go Bool
  | .always answer => return answer
  | .name pattern anyCase => return fits anyCase pattern (baseOf f.path)
  | .path pattern anyCase => return fits anyCase pattern f.path
  | .regex p => return p.fits f.path.toList
  | .kind letters => return letters.contains (letterOf f.status)
  | .empty => do
    match f.status.kind with
    | .file => return f.status.size = 0
    | .directory =>
      match ← StateT.lift (sys (.list f.path)) with
      | .ok names => return names.isEmpty
      | .error _ => return false
    | _ => return false
  | .size b unit => return b.holds ((f.status.size + unit - 1) / unit)
  | .links b => return b.holds f.status.links
  | .age b unit => return b.holds ((now - f.status.time) / 1000000000 / unit).toNat
  | .newer time => return time < f.status.time
  | .mode how bits =>
    return match how with
      | .exactly => f.status.mode = bits
      | .all => f.status.mode &&& bits = bits
      | .any => bits = 0 || f.status.mode &&& bits ≠ 0
  | .print mark => do
    StateT.lift (put 1 (f.path.toList ++ [mark]))
    return true
  | .format text => do
    let (text, _) := Printf.unescape { hex := true } (text.length + 1) text
    StateT.lift (put 1 (formatted f (text.length + 1) text))
    return true
  | .list => do
    let m : Manner := { layout := .long, numbers := true, blocks := true }
    StateT.lift do say (Text.join "" (m.longLines now [⟨f.path, f.path, f.status⟩]))
    return true
  | .delete => StateT.lift do
    if f.path = "." then return true
    let change : Change := if f.status.kind = .directory then .removeDirectory else .unlink
    match ← sys (.change f.path change) with
    | .ok _ => return true
    | .error e =>
      trouble s!"cannot delete {inQuotes f.path}: {e.words.1}"
      return false
  | .prune => do
    modify ({ · with pruned := true })
    return true
  | .quit => do
    modify ({ · with done := true })
    return true
  | .run inPlace words => StateT.lift (runFor inPlace words f.path)
  | .gather number _ => do
    modify fun w => { w with gathered := (number, f.path) :: w.gathered }
    return true
  | .not s => return !(← decide_ now f s)
  | .both s t => do
    if ← decide_ now f s then
      if (← get).done then return true
      decide_ now f t
    else return false
  | .either s t => do
    if ← decide_ now f s then return true
    if (← get).done then return true
    decide_ now f t
  | .after s t => do
    let _ ← decide_ now f s
    if (← get).done then return true
    decide_ now f t
where
  fits (anyCase : Bool) (pattern : List Char) (text : String) : Bool :=
    let fold (cs : List Char) : List Char := if anyCase then cs.map Char.toLower else cs
    (Glob.pattern ((fold pattern).map (·, false))).fits (fold text.toList)

/-- Walks through a thing and all that is in it. -/
def walk (now : Int) (l : Limits) (s : Step) (follow : Bool) (start : String) :
    Nat → Nat → String → Go Unit
  | 0, _, _ => return ()
  | fuel + 1, depth, path => do
    if (← get).done then return ()
    match ← StateT.lift (if follow then sys (.status path) else sys (.statusOfName path)) with
    | .error e => StateT.lift (trouble s!"{inQuotes path}: {e.words.1}")
    | .ok status =>
      let f : Found := { path, start, depth, status }
      let look : Go Unit := do
        unless depth < l.least do
          let _ ← decide_ now f s
      modify ({ · with pruned := false })
      unless l.deepFirst do look
      let w ← get
      let enters := status.kind = .directory && !(w.pruned && !l.deepFirst) && !w.done &&
        l.most.all (depth < ·)
      if enters then
        match ← StateT.lift (sys (.list path)) with
        | .error e => StateT.lift (trouble s!"{inQuotes path}: {e.words.1}")
        | .ok names =>
          for name in names do
            walk now l s follow start fuel (depth + 1) (inside path name)
      if l.deepFirst then
        unless (← get).done do look

/-- Runs the commands for all things that were gathered. -/
def finish (w : Walk) : Step → Act Unit
  | .gather number words => do
    let paths := (w.gathered.filter (·.1 = number)).reverse.map (·.2)
    unless paths.isEmpty do
      let pid ← start false (words ++ paths) fun first => inQuotes first
      if (← awaitEnd pid) ≠ .code 0 then setStatus 1
  | .not s => finish w s
  | .both s t => do
    finish w s
    finish w t
  | .either s t => do
    finish w s
    finish w t
  | .after s t => do
    finish w s
    finish w t
  | _ => return ()

end Finding

open Finding in
def find : Tool := fun arguments => do
  let flags := arguments.takeWhile fun a => ["-L", "-H", "-P"].contains a
  let follow := flags.getLast? = some "-L"
  let arguments := arguments.drop flags.length
  let starts := arguments.takeWhile (!Finding.opens ·)
  let rest := arguments.drop starts.length
  let now ← sys .now
  let (s, r) ← if rest.isEmpty then pure (Step.print '\n', ({ rest := [], now } : Reading))
    else do
      let (s, r) ← (Finding.whole (4 * rest.length + 8)).run { rest, now }
      match r.rest with
      | ")" :: _ => fail "you have too many ')'"
      | _ => pure ()
      pure (if s.acts then s else .both s (.print '\n'), r)
  let begin_ : Walk := {}
  let (_, w) ← (do
    for start in (if starts.isEmpty then ["."] else starts) do
      Finding.walk now r.limits s follow start 1000 0 start : Go Unit).run begin_
  Finding.finish w s

/-- The tools of this module by their names. -/
def findingTools : List (String × Tool) := [("find", find)]

end Testbed.Rehearsal.Machine.Tool
