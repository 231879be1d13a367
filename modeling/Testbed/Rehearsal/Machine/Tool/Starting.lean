import Testbed.Rehearsal.Machine.Tool.Plain
/-!
# Tools that start other programs

Programs that run a command in another way than the shell would: with other variables, for a limited
time, or once for each of many arguments.
-/
namespace Testbed.Rehearsal.Machine.Tool

open Act

/-- Runs another program in place of the tool. There is an answer only if that cannot be done. -/
def become (environment : Environment) (command : List String) : Act OsError := do
  let launch := (← read).launch
  task (launch.byName environment command)

/-- The status of a tool that cannot run a command. -/
def statusOfRefusal (e : OsError) : Nat := if e = .notFound then 127 else 126

/-- Runs another program in place of the tool, or ends. -/
def becomeOr {α : Type} (environment : Environment) (command : List String)
    (words : String → String) : Act α := do
  let e ← become environment command
  let shown := inQuotes (command.head?.getD "")
  fail s!"{words shown}: {e.words.1}" (statusOfRefusal e)

/-- Ends a process that was forked. -/
def leave {α : Type} (status : Nat) : Act α := do
  nomatch ← sys (.exit status)

/-- Starts a program in a process of its own; it has nothing to read if `mute` is set. -/
def start (mute : Bool) (command : List String) (words : String → String) : Act Nat := do
  match ← sys .fork with
  | some pid => return pid
  | none =>
    if mute then
      match ← sys (.open "/dev/null" .read) with
      | .ok fd =>
        let _ ← sys (.copyTo fd 0)
        let _ ← sys (.close fd)
      | .error _ => pure ()
    let e ← become (← read).environment command
    let shown := words (command.head?.getD "")
    complain s!"{shown}: {e.words.1}"
    leave (statusOfRefusal e)

/-- Waits for the end of a process. -/
def awaitEnd (pid : Nat) : Act ExitStatus := do
  match ← sys (.wait (some pid) false) with
  | .ended _ status => return status
  | _ => return .code 0

/-- Ends as a process that a signal has ended. -/
def dieOf {α : Type} (signal : Nat) : Act α := do
  sys (.arrange signal .standard)
  let (pid, _) ← sys .self
  let _ ← sys (.kill pid signal)
  quit (128 + signal)

/-! ## Once -/

/-- A variable and its value, if that is what an argument gives. -/
def assignment? (text : String) : Option (String × String) :=
  let name := text.toList.takeWhile (· ≠ '=')
  if name.length < text.length then
    some (String.ofList name, String.ofList (text.toList.drop (name.length + 1)))
  else none

/-- The words of a text in which quotes and backslashes mean something. -/
def splitWords : Nat → Option Char → Bool → List Char → List Char → List String
  | 0, _, _, word, _ => [String.ofList word.reverse]
  | fuel + 1, quote, inWord, word, text =>
    match quote, text with
    | _, [] => if inWord then [String.ofList word.reverse] else []
    | none, '\\' :: c :: rest => splitWords fuel none true (c :: word) rest
    | some '"', '\\' :: c :: rest => splitWords fuel (some '"') true (c :: word) rest
    | some q, c :: rest =>
      if c = q then splitWords fuel none true word rest
      else splitWords fuel (some q) true (c :: word) rest
    | none, c :: rest =>
      if c = '\'' || c = '"' then splitWords fuel (some c) true word rest
      else if c = ' ' || c = '\t' || c = '\n' then
        if inWord then String.ofList word.reverse :: splitWords fuel none false [] rest
        else splitWords fuel none false [] rest
      else splitWords fuel none true (c :: word) rest

def env : Tool := fun arguments => do
  let g : Grammar :=
    { kinds := [⟨'i', "ignore-environment", .nothing⟩, ⟨'u', "unset", .argument⟩,
        ⟨'C', "chdir", .argument⟩, ⟨'0', "null", .nothing⟩, ⟨'S', "split-string", .argument⟩,
        ⟨'v', "debug", .nothing⟩]
      anywhere := false, status := 125 }
  let (chosen, rest) ← g.all arguments
  let dashed := rest.head? = some "-"
  let rest := if dashed then rest.tail else rest
  let split := (chosen.text? 'S').elim [] fun text =>
    splitWords (text.length + 1) none false [] text.toList
  let rest := split ++ rest
  let own := (← read).environment
  let base := if chosen.has 'i' || dashed then [] else own
  let gone := (chosen.filter (·.1 = 'u')).map (·.2)
  let base := base.filter fun v => !gone.contains v.1
  let given := (rest.takeWhile fun text => (assignment? text).isSome).filterMap assignment?
  let environment := given.foldl (fun (all : Environment) (name, value) =>
    if all.any (·.1 = name) then all.map fun v => if v.1 = name then (name, value) else v
    else all ++ [(name, value)]) base
  let command := rest.drop given.length
  if let some dir := chosen.text? 'C' then
    match ← sys (.enter dir) with
    | .ok _ => pure ()
    | .error e => fail s!"cannot change directory to {inQuotes dir}: {e.words.1}" 125
  if command.isEmpty then
    let mark := if chosen.has '0' then "\x00" else "\n"
    for (name, value) in environment do say s!"{name}={value}{mark}"
  else becomeOr environment command id

/-- The words about a command that cannot be run. -/
def failedToRun (shown : String) : String := s!"failed to run command {shown}"

def nohup : Tool := fun arguments => do
  let (_, command) ←
    ({ kinds := [], anywhere := false, status := 125 } : Grammar).all arguments
  if command.isEmpty then misuse "missing operand" 125
  sys (.arrange 1 .ignored)
  becomeOr (← read).environment command failedToRun

def nice : Tool := fun arguments => do
  let arguments := match arguments with
    | first :: rest =>
      match first.toList with
      | '-' :: c :: digits =>
        if c.isDigit || (c = '-' && digits.head?.any Char.isDigit) then
          "-n" :: String.ofList (c :: digits) :: rest
        else arguments
      | _ => arguments
    | [] => []
  let g : Grammar :=
    { kinds := [⟨'n', "adjustment", .argument⟩], anywhere := false, status := 125 }
  let (chosen, command) ← g.all arguments
  if command.isEmpty then
    if chosen.has 'n' then misuse "a command must be given with an adjustment" 125
    say "0\n"
  else becomeOr (← read).environment command id

def setsid : Tool := fun arguments => do
  let g : Grammar :=
    { kinds := [⟨'c', "ctty", .nothing⟩, ⟨'f', "fork", .nothing⟩, ⟨'w', "wait", .nothing⟩]
      anywhere := false }
  let (_, command) ← g.all arguments
  if command.isEmpty then misuse "no command specified"
  sys (.lead true)
  becomeOr (← read).environment command fun shown => s!"failed to execute {shown}"

def stdbuf : Tool := fun arguments => do
  let g : Grammar :=
    { kinds := [⟨'i', "input", .argument⟩, ⟨'o', "output", .argument⟩, ⟨'e', "error", .argument⟩]
      anywhere := false, status := 125 }
  let (chosen, command) ← g.all arguments
  if command.isEmpty then misuse "missing operand" 125
  if chosen.isEmpty then misuse "you must specify a buffering mode option" 125
  becomeOr (← read).environment command failedToRun

/-- Starts a process that does nothing for a time. -/
def startTimer (nanos : Nat) : Act Nat := do
  match ← sys .fork with
  | some pid => return pid
  | none =>
    sys (.sleep nanos)
    leave 0

/-- Waits until a process has ended, or another one that measures the time. -/
def awaitEither (pid timer : Nat) : Nat → Act (Option ExitStatus)
  | 0 => return none
  | fuel + 1 => do
    match ← sys (.wait none false) with
    | .ended ended status =>
      if ended = pid then
        let _ ← sys (.kill timer 9)
        let _ ← sys (.wait (some timer) false)
        return some status
      else if ended = timer then return none
      else awaitEither pid timer fuel
    | _ => return none

def timeout : Tool := fun arguments => do
  let g : Grammar :=
    { kinds := [⟨'s', "signal", .argument⟩, ⟨'k', "kill-after", .argument⟩,
        ⟨'p', "preserve-status", .nothing⟩, ⟨'f', "foreground", .nothing⟩,
        ⟨'v', "verbose", .nothing⟩]
      anywhere := false, status := 125 }
  let (chosen, rest) ← g.all arguments
  let interval (text : String) : Act Nat :=
    match interval? text with
    | some n => return n
    | none => misuse s!"invalid time interval {inQuotes text}" 125
  let signal ← match chosen.text? 's' with
    | none => pure 15
    | some text =>
      match signalOf? text with
      | some n => pure n
      | none => misuse s!"{inQuotes text}: invalid signal" 125
  let later ← match chosen.text? 'k' with
    | none => pure 0
    | some text => interval text
  match rest with
  | time :: first :: arguments =>
    let limit ← interval time
    sys (.lead false)
    let pid ← start false (first :: arguments) fun shown => failedToRun (inQuotes shown)
    let (self, _) ← sys .self
    let send (signal : Nat) : Act Unit := do
      if chosen.has 'v' then
        complain s!"sending signal {signalName signal} to command {inQuotes first}"
      let _ ← sys (.kill pid signal)
      if signal ≠ 9 && !chosen.has 'f' then
        sys (.arrange signal .ignored)
        let _ ← sys (.kill (-(self : Int)) signal)
        let _ ← sys (.kill pid 18)
    let ended (late : Bool) (status : ExitStatus) : Act Unit := do
      match status with
      | .code n => setStatus (if late && !chosen.has 'p' then 124 else n)
      | .signal n =>
        if late && !chosen.has 'p' && n ≠ 9 then setStatus 124
        else if late && n ≠ 9 then setStatus (128 + n)
        else dieOf n
    if limit = 0 then ended false (← awaitEnd pid)
    else
      let timer ← startTimer limit
      match ← awaitEither pid timer streamFuel with
      | some status => ended false status
      | none =>
        send signal
        if later = 0 then ended true (← awaitEnd pid)
        else
          let timer ← startTimer later
          match ← awaitEither pid timer streamFuel with
          | some status => ended true status
          | none =>
            send 9
            ended true (← awaitEnd pid)
  | _ =>
    let _ ← sys (.write 2 s!"Try '{← name} --help' for more information.\n".toList)
    quit 125

/-! ## Many times -/

/-- How the input of `xargs` is cut into arguments. -/
inductive Cutting
  | words
  | at (mark : Char)
  deriving DecidableEq, Repr

/-- An argument that was read, and how many lines of input come before it. -/
structure Item where
  text : String
  line : Nat
  deriving Repr

/-- The arguments in a text with quotes and backslashes. `whole` tells that only the ends of lines
are between arguments. -/
def readItems (whole : Bool) : Nat → Option Char → Option (List Char) → (line : Nat) →
    (blank : Bool) → List Char → Except Char (List Item)
  | 0, _, _, _, _, _ => .ok []
  | fuel + 1, quote, word, line, blank, text => do
    let ended (word : Option (List Char)) : List Item :=
      word.toList.map fun cs => ⟨String.ofList cs.reverse, line⟩
    let on (c : Char) : Option (List Char) := some (c :: word.getD [])
    match quote, text with
    | some q, [] => throw q
    | none, [] => return ended word
    | some q, c :: rest =>
      if c = q then readItems whole fuel none (some (word.getD [])) line false rest
      else if c = '\n' then throw q
      else readItems whole fuel quote (on c) line false rest
    | none, '\\' :: c :: rest => readItems whole fuel none (on c) line false rest
    | none, c :: rest =>
      if c = '\n' then
        -- a line that ends in a blank goes on in the next one
        let next := if blank && !whole then line else line + 1
        return ended word ++ (← readItems whole fuel none none next false rest)
      else if c = '\'' || c = '"' then
        readItems whole fuel (some c) (some (word.getD [])) line false rest
      else if c = ' ' || c = '\t' then
        if whole then
          if word.isNone then readItems whole fuel none none line true rest
          else readItems whole fuel none (on c) line true rest
        else return ended word ++ (← readItems whole fuel none none line true rest)
      else readItems whole fuel none (on c) line false rest

/-- Arguments in groups, each for one command. -/
def grouped (most lines size : Nat) (base : Nat) (items : List Item) : List (List String) :=
  let (groups, group, _, _) := items.foldl (fun (groups, group, length, first) item =>
    let long := length + item.text.length + 1
    let full := most ≤ group.length || size < long ||
      (match first with
        | some n => decide (n + lines ≤ item.line)
        | none => false)
    if full && !group.isEmpty then
      (group.reverse :: groups, [item.text], base + item.text.length + 1, some item.line)
    else (groups, item.text :: group, long, first <|> some item.line))
    (([] : List (List String)), ([] : List String), base, (none : Option Nat))
  ((if group.isEmpty then groups else group.reverse :: groups)).reverse

/-- A text with every occurrence of another one replaced. -/
def replaced (old new : List Char) : Nat → List Char → List Char
  | 0, text => text
  | _, [] => []
  | fuel + 1, c :: rest =>
    if !old.isEmpty && Text.startsWith old (c :: rest) then
      new ++ replaced old new fuel ((c :: rest).drop old.length)
    else c :: replaced old new fuel rest

/-- Runs the commands of `xargs`, and tells what becomes of its status. -/
def runCommands (loud : Bool) : List (List String) → Nat → Act Nat
  | [], status => return status
  | command :: rest, status => do
    if loud then
      let row := Text.join " " (command.map shownName)
      let _ ← sys (.write 2 s!"{row}\n".toList)
    let first := command.head?.getD ""
    let pid ← start true command id
    match ← awaitEnd pid with
    | .code 0 => runCommands loud rest status
    | .code 255 => fail s!"{first}: exited with status 255; aborting" 124
    | .code 127 => quit 127
    | .code 126 => quit 126
    | .code _ => runCommands loud rest 123
    | .signal n => fail s!"{first}: terminated by signal {Text.decimal n}" 125

def xargs : Tool := fun arguments => do
  let g : Grammar :=
    { kinds := [⟨'0', "null", .nothing⟩, ⟨'a', "arg-file", .argument⟩,
        ⟨'d', "delimiter", .argument⟩, ⟨'E', "", .argument⟩, ⟨'e', "eof", .maybe⟩,
        ⟨'I', "", .argument⟩, ⟨'i', "replace", .maybe⟩, ⟨'L', "", .argument⟩,
        ⟨'l', "max-lines", .maybe⟩, ⟨'n', "max-args", .argument⟩, ⟨'P', "max-procs", .argument⟩,
        ⟨'r', "no-run-if-empty", .nothing⟩, ⟨'s', "max-chars", .argument⟩,
        ⟨'t', "verbose", .nothing⟩, ⟨'x', "exit", .nothing⟩, ⟨'o', "open-tty", .nothing⟩]
      anywhere := false }
  let (chosen, command) ← g.all arguments
  let number (letter : Char) (text : String) : Act Nat :=
    match Text.digits? text.toList with
    | some n =>
      if n = 0 then
        misuse s!"value {text} for -{letter} option should be >= 1"
      else return n
    | none =>
      misuse ("invalid number \"" ++ text ++ s!"\" for -{letter} option")
  let numberOf (letter : Char) (usual : Nat) : Act Nat :=
    match chosen.text? letter with
    | some text => if text.isEmpty then return 1 else number letter text
    | none => return usual
  let most ← numberOf 'n' streamFuel
  let lines ← match chosen.lastOf ['L', 'l'] with
    | some c => numberOf c 1
    | none => pure streamFuel
  let size ← numberOf 's' 131072
  let place := match chosen.lastOf ['I', 'i'] with
    | some c =>
      let text := (chosen.text? c).getD ""
      some (if text.isEmpty then "\x7b\x7d" else text)
    | none => none
  let cutting := match chosen.lastOf ['0', 'd'] with
    | some '0' => Cutting.at '\x00'
    | some _ =>
      let text := ((chosen.text? 'd').getD "").toList
      .at ((Printf.unescape { hex := true } (text.length + 1) text).1.head?.getD '\x00')
    | none => .words
  let text ← match ← contentOf ((chosen.text? 'a').getD "-") with
    | .ok text => pure text
    | .error e =>
      let path := (chosen.text? 'a').getD "-"
      fail s!"Cannot open input file {inQuotes path}: {e.words.1}"
  let items ← match cutting with
    | .at mark =>
      pure ((linesOf text mark).1.zipIdx.map fun (row, i) => (⟨String.ofList row, i⟩ : Item))
    | .words =>
      match readItems place.isSome (text.length + 1) none none 0 false text with
      | .ok items => pure items
      | .error q =>
        let what := if q = '"' then "double" else "single"
        let advice := "by default quotes are special to xargs unless you use the -0 option"
        fail s!"unmatched {what} quote; {advice}"
  let items := match chosen.lastOf ['E', 'e'] with
    | some c =>
      let stop := (chosen.text? c).getD ""
      if stop.isEmpty then items else items.takeWhile (·.text ≠ stop)
    | none => items
  let command := if command.isEmpty then ["echo"] else command
  let commands := match place with
    | some mark => items.map fun item => command.zipIdx.map fun (word, i) =>
      if i = 0 then word
      else String.ofList
        (replaced mark.toList item.text.toList (word.length + 1) word.toList)
    | none =>
      let base := command.foldl (fun n word => n + word.length + 1) 0
      let groups := grouped most lines size base items
      if groups.isEmpty then (if chosen.has 'r' then [] else [command])
      else groups.map (command ++ ·)
  setStatus (← runCommands (chosen.has 't') commands 0)

/-! ## What there is -/

def which : Tool := fun arguments => do
  let (chosen, names) ← ({ kinds := [⟨'a', "", .nothing⟩], status := 2 } : Grammar).all arguments
  let search := ((← read).environment.lookup "PATH").getD ""
  let mut missing := names.isEmpty
  for name in names do
    let mut found := false
    for path in candidates search name do
      if !found || chosen.has 'a' then
        match ← sys (.status path) with
        | .ok s =>
          if s.kind = .file && s.mode &&& 0o111 ≠ 0 then
            found := true
            say s!"{path}\n"
        | .error _ => pure ()
    if !found then missing := true
  if missing then setStatus 1

/-- The tools of this module by their names. -/
def startingTools : List (String × Tool) :=
  [("env", env),
   ("nice", nice),
   ("nohup", nohup),
   ("setsid", setsid),
   ("stdbuf", stdbuf),
   ("timeout", timeout),
   ("which", which),
   ("xargs", xargs)]

end Testbed.Rehearsal.Machine.Tool
