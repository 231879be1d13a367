import Testbed.Rehearsal.Machine.Shell.Builtins
/-!
# Running scripts

What a shell does with a script: it runs its commands one after another, by itself or in processes
of their own, with their redirections, and looks after the signals that come in between.

Scripts contain scripts, and running one may mean running a text that was not there before. So the
steps are told by what runs the parts: `step` of it is what runs the whole, and `execute` does so to
a depth that no script reaches.
-/
namespace Testbed.Rehearsal.Machine.Shell

open Sh

/-- How a script is run. -/
structure Manner where
  /-- Whether its failure is looked at, so that it does not end the shell. -/
  tested : Bool := false
  /-- Whether the shell has nothing else to do behind it. -/
  last : Bool := false

/-- What runs the parts of scripts. -/
structure Player where
  launch : Launch
  execute : Manner → Script → Sh Unit

/-! ## Texts -/

/-- Runs the commands of a text. -/
def playSource (execute : Manner → Script → Sh Unit) (m : Manner) :
    Nat → Nat → Source → Sh Nat
  | 0, status, _ => return status
  | fuel + 1, status, source => do
    match { source with aliases := (← get).aliases : Source }.next with
    | .error e => do
      modify fun s => { s with line := e.line }
      fail e.message
    | .ok .finish => return status
    | .ok (.blank rest) => playSource execute m fuel status rest
    | .ok (.script script rest) => do
      execute { m with last := false } script
      playSource execute m fuel (← get).status rest

namespace Player

/-- Runs a text. -/
def evaluate (p : Player) (m : Manner) (text : String) : Sh Nat :=
  let source : Source := { rest := text.toList }
  playSource p.execute m (source.rest.length + 2) 0 source

def engine (p : Player) : Engine := ⟨p.launch, fun tested => p.evaluate { tested }⟩

/-! ## Signals -/

/-- Runs what is to be done about a signal. The status is as before afterwards. -/
def react (p : Player) (action : String) : Sh Unit := do
  let s ← get
  set { s with before := some s.status }
  let _ ← p.evaluate {} action
  modify fun now => { now with status := s.status, before := s.before }

/-- Attends to the signals that came. -/
def attend (p : Player) : Sh Unit := do
  if (← get).traps.any fun t => t.1 ≠ 0 && !t.2.isEmpty then
    let signals ← sys .caught
    let s ← get
    set { s with pending := [] }
    for n in (s.pending ++ signals).mergeSort (· ≤ ·) do
      match (← get).traps.lookup n with
      | some action => p.react action
      | none => pure ()

/-- Whether anything is to be done about a signal, or at the end. -/
def hasTraps : Sh Bool := do return (← get).traps.any (!·.2.isEmpty)

/-! ## Processes -/

/-- Ends the shell, after what is to be done at its end. -/
def leave (p : Player) : Sh Empty := do
  let s ← get
  match s.traps.lookup 0 with
  | some action =>
    set { s with traps := s.traps.filter (·.1 ≠ 0), before := some s.status }
    match ← caught (p.evaluate {} action) with
    | .ok _ => sys (.exit s.status)
    | .error _ => sys (.exit (← get).status)
  | none => sys (.exit s.status)

/-- Does something and then ends the shell. -/
def toTheEnd (p : Player) (body : Sh Unit) : Sh Empty := do
  let _ ← caught body
  p.leave

/-- What a process forgets of the shell that it comes from. -/
def becomeChild : Sh Unit := do
  let s ← get
  for (n, action) in s.traps do
    unless n = 0 || action.isEmpty do
      let _ ← sys (.arrange n .standard)
  set { s with
    traps := s.traps.filter (·.2.isEmpty), loops := 0, jobs := [], pending := [] }

/-- What a process in the background does without: signals of the keyboard, and input if it is the
first of its job. -/
def withdraw (first : Bool) : Sh Unit := do
  let _ ← sys (.arrange 2 .ignored)
  let _ ← sys (.arrange 3 .ignored)
  modify fun s => { s with deaf := [2, 3] ++ s.deaf }
  if first then
    let _ ← sys (.close 0)
    let _ ← sys (.open "/dev/null" .read)

/-- Does something in a child. -/
def inChild (p : Player) (body : Sh Unit) : Sh Nat := do
  match ← sys .fork with
  | some pid => return pid
  | none => nomatch ← p.toTheEnd do
    becomeChild
    body

/-- What expansion needs to run scripts. -/
def runner (p : Player) : Runner :=
  ⟨fun script => p.toTheEnd do
    becomeChild
    p.execute { last := true } script⟩

/-- Starts the processes of a pipeline, each of which reads what the one before it writes. -/
def startStages (p : Player) (m : Manner) (background : Bool) :
    List Script → Option Nat → List Nat → Sh (List Nat)
  | [], _, pids => return pids
  | stage :: rest, source, pids => do
    let connection ← if rest.isEmpty then pure none else some <$> sys .pipe
    let pid ← p.inChild do
      if background then withdraw pids.isEmpty
      match connection with
      | some (next, _) =>
        let _ ← sys (.close next)
      | none => pure ()
      match source with
      | some fd =>
        let _ ← sys (.copyTo fd 0)
        unless fd = 0 do
          let _ ← sys (.close fd)
      | none => pure ()
      match connection with
      | some (_, sink) =>
        let _ ← sys (.copyTo sink 1)
        unless sink = 1 do
          let _ ← sys (.close sink)
      | none => pure ()
      p.execute { m with last := true } stage
    match source with
    | some fd =>
      let _ ← sys (.close fd)
    | none => pure ()
    match connection with
    | some (_, sink) =>
      let _ ← sys (.close sink)
    | none => pure ()
    p.startStages m background rest (connection.map (·.1)) (pids ++ [pid])

/-! ## Redirections -/

/-- Where a redirection leads, once it is known. -/
inductive Aim
  | path (way : Way) (name : String)
  | descriptor (fd : Option Nat)
  | text (chars : List Char)

/-- Works out where redirections lead. -/
def aims (p : Player) : List Redirect → Sh (List (Nat × Aim))
  | [] => return []
  | .mk fd way target :: rest => do
    let aim ← match way with
      | .document =>
        let bits ← expandPieces p.runner wordFuel { quoted := true, fields := false } target
        pure (.text (textOf bits))
      | .join => do
        let text ← expandWhole p.runner target
        match text.toList with
        | ['-'] => pure (.descriptor none)
        | [c] =>
          unless c.isDigit do fail "Syntax error: Bad fd number"
          pure (.descriptor (some (c.toNat - '0'.toNat)))
        | _ => fail "Syntax error: Bad fd number"
      | way => pure (.path way (← expandWhole p.runner target))
    return (fd, aim) :: (← p.aims rest)

/-- What descriptors were before redirections changed them. -/
abbrev Saved := List (Nat × Option Nat)

def cannotCreate {α : Type} (name : String) (e : OsError) : Sh α :=
  fail s!"cannot create {name}: {noPlaceWords e}"

/-- Opens what a redirection leads to. -/
def openAim (way : Way) (name : String) : Sh Nat := do
  let opening : Opening ← match way with
    | .read => pure .read
    | .append => pure .append
    | .both => pure .both
    | .write =>
      if (← get).options.has 'C' then
        match ← sys (.status name) with
        | .ok { kind := .other, .. } => pure .write
        | .ok _ => cannotCreate name .alreadyThere
        | .error _ => pure .write
      else pure .write
    | _ => pure .write
  match ← sys (.open name opening) with
  | .ok fd => return fd
  | .error e =>
    if way = .read then fail s!"cannot open {name}: {noFileWords e}"
    else cannotCreate name e

/-- A descriptor that a text can be read from. -/
def openText (p : Player) (text : List Char) : Sh Nat := do
  let (source, sink) ← sys .pipe
  if text.length ≤ 4096 then
    let _ ← sys (.write sink text)
  else
    let _ ← p.inChild do
      let _ ← sys (.close source)
      let _ ← sys (.write sink text)
      throw .leave
  let _ ← sys (.close sink)
  return source

/-- Does redirections, the first one first. What the descriptors were is put in front of `saved`. -/
def redirect (p : Player) (save : Bool) : List (Nat × Aim) → StateT Saved Sh Unit
  | [] => return ()
  | (fd, aim) :: rest => do
    let opened ← match aim with
      | .path way name => some <$> (openAim way name : Sh Nat)
      | .text chars => some <$> (p.openText chars : Sh Nat)
      | .descriptor _ => pure none
    if save && !(← get).any (·.1 = fd) && opened ≠ some fd then
      match ← (sys (.copyAbove fd 10) : Sh _) with
      | .ok copy => modify ((fd, some copy) :: ·)
      | .error _ => modify ((fd, none) :: ·)
    else if save && opened = some fd then modify ((fd, none) :: ·)
    match aim, opened with
    | .descriptor none, _ =>
      let _ ← (sys (.close fd) : Sh _)
    | .descriptor (some source), _ =>
      unless source = fd do
        match ← (sys (.copyTo source fd) : Sh _) with
        | .ok _ => pure ()
        | .error e => (fail s!"{Text.decimal source}: {e.words.1}" : Sh Unit)
    | _, some source =>
      unless source = fd do
        let _ ← (sys (.copyTo source fd) : Sh _)
        let _ ← (sys (.close source) : Sh _)
    | _, none => pure ()
    p.redirect save rest

/-- Undoes redirections. -/
def restore : Saved → Sh Unit
  | [] => return ()
  | (fd, some copy) :: rest => do
    let _ ← sys (.copyTo copy fd)
    let _ ← sys (.close copy)
    restore rest
  | (fd, none) :: rest => do
    let _ ← sys (.close fd)
    restore rest

/-- Gives up the way back from redirections. -/
def forget : Saved → Sh Unit
  | [] => return ()
  | (_, copy) :: rest => do
    match copy with
    | some copy =>
      let _ ← sys (.close copy)
    | none => pure ()
    forget rest

/-- Does something under redirections, which are undone at its end however that comes. Without an
answer they could not be done. The body is told what the descriptors were, and whether they are to
stay as they are now is its second answer. -/
def redirected {α : Type} (p : Player) (aims : List (Nat × Aim)) (body : Saved → Sh (α × Bool)) :
    Sh (Option α) := do
  let attempt : Sh (Unit × Saved) := do
    let mut saved : Saved := []
    for one in aims do
      match ← caught ((p.redirect true [one]).run saved) with
      | .ok ((), more) => saved := more
      | .error jump =>
        restore saved
        throw jump
    return ((), saved)
  match ← caught attempt with
  | .error .failed => return none
  | .error jump => throw jump
  | .ok ((), saved) =>
    match ← caught (body saved) with
    | .ok (a, stay) =>
      if stay then forget saved else restore saved
      return some a
    | .error jump =>
      restore saved
      throw jump

/-! ## Simple commands -/

/-- What stands for a name. -/
inductive Meaning
  | builtin (run : Builtin) (special : Bool)
  | function (body : Script)
  | program

/-- What a name stands for. `direct` leaves functions out. -/
def meaning (name : String) (direct : Bool) : Sh Meaning := do
  match builtin? name, specialBuiltins.contains name with
  | some run, true => return .builtin run true
  | found, _ =>
    match (← get).functions.lookup name, direct with
    | some body, false => return .function body
    | _, _ =>
      match found with
      | some run => return .builtin run false
      | none => return .program

/-- The words of a command as far as its name is not known yet, and those that are left. -/
def firstFields (p : Player) : List Word → Sh (List String × List Word)
  | [] => return ([], [])
  | w :: rest => do
    match ← expandWords p.runner [w] with
    | [] => p.firstFields rest
    | fields => return (fields, rest)

/-- What `command` has in front of the command that it runs. -/
inductive Directly
  | no
  | yes
  /-- It tells what a name stands for instead of running it. -/
  | asks (inWords : Bool)

/-- Takes `command` and its options off a row of fields. -/
def skipCommand : Nat → List String → Directly → Sh (List String × Directly)
  | 0, fields, how => return (fields, how)
  | fuel + 1, fields, how => do
    match fields with
    | "command" :: rest =>
      let before := (← get).command
      modify fun s => { s with command := some "command" }
      let (letters, rest) ← letterOptions ['p', 'v', 'V'] rest
      modify fun s => { s with command := before }
      if letters.contains 'V' then return (rest, .asks true)
      else if letters.contains 'v' then return (rest, .asks false)
      else skipCommand fuel rest .yes
    | fields => return (fields, how)

/-- The arguments of a command. Those that set variables are not cut into fields if `assigns`. -/
def argumentFields (p : Player) (assigns : Bool) : List Word → Sh (List String)
  | [] => return []
  | w :: rest => do
    let fields ← if assigns && (assignment? w).isSome then
        match assignment? w with
        | some (name, value) => pure [s!"{name}={← expandValue p.runner value}"]
        | none => pure []
      else expandWords p.runner [w]
    return fields ++ (← p.argumentFields assigns rest)

/-- Runs a function. -/
def callFunction (p : Player) (m : Manner) (body : Script) (arguments : List String) : Sh Nat := do
  let s ← get
  set { s with arguments, letter := 0, loops := 0, calls := s.calls + 1, scopes := [] :: s.scopes }
  let result ← caught (p.execute { tested := m.tested } body)
  leaveScope
  modify fun now =>
    { now with arguments := s.arguments, letter := s.letter, loops := s.loops, calls := s.calls }
  match result with
  | .ok _ => return (← get).status
  | .error .return_ => return (← get).status
  | .error jump => throw jump

/-- Runs a command of the shell itself. What goes wrong in it ends the shell if it is special. -/
def callBuiltin (p : Player) (m : Manner) (run : Builtin) (special : Bool) (words : List String) :
    Sh Nat := do
  let before := (← get).command
  modify fun s => { s with command := words.head?, unwritten := false }
  let result ← caught (run p.engine m.tested words.tail)
  let failed := (← get).unwritten
  modify fun s => { s with command := before, unwritten := false }
  match result with
  | .ok status => return if failed then status ||| 1 else status
  | .error .failed => if special then throw .failed else return (← get).status
  | .error jump => throw jump

/-- Runs a program in a child, or in place of the shell if nothing comes behind it. -/
def callProgram (p : Player) (m : Manner) (words : List String) : Sh Nat := do
  match ← search (words.head?.getD "") with
  | .error e => do
    complain (words.head?.getD "" ++ ": " ++ notFoundWords e)
    return 127
  | .ok _ =>
    if m.last && !(← hasTraps) then replaceBy p.engine words
    else
      match ← sys .fork with
      | some pid => await [pid]
      | none => nomatch ← p.toTheEnd do
        becomeChild
        modify fun s => { s with command := none }
        let _ ← replaceBy p.engine words

/-- Writes down what is run, if that is asked for. -/
def trace (values : List (String × String)) (words : List String) (saved : Saved) : Sh Unit := do
  let s ← get
  if s.options.has 'x' then
    let front := (s.value? "PS4").getD "+ "
    let row := values.map (fun (name, value) => s!"{name}={value}") ++ words
    let fd := match saved.lookup 2 with
      | some (some copy) => copy
      | _ => 2
    let _ ← write fd (front ++ Text.join " " row ++ "\n")

/-- Sets variables for a command. `passing` are those of a program or function alone, which are
handed on to it. -/
def setFor (p : Player) (passing : Bool) : List (String × Word) → Sh (List (String × String))
  | [] => return []
  | (name, w) :: rest => do
    let value ← expandValue p.runner w
    if passing then
      localize name
      setVariable name value
      markVariable name ({ · with exported := true })
    else setVariable name value
    return (name, value) :: (← p.setFor passing rest)

/-- Runs a simple command. -/
def runSimple (p : Player) (m : Manner) (line : Nat) (assignments : List (String × Word))
    (words : List Word) (redirects : List Redirect) : Sh Unit := do
  modify fun s => { s with line, substituted := 0 }
  let (first, rest) ← p.firstFields words
  -- `command` is seen through as far as its words are known
  let early ← if first = ["command"] then p.argumentFields false rest else pure []
  let rest := if first = ["command"] then [] else rest
  let (front, how) ← skipCommand 100 (first ++ early) .no
  let name := front.head?
  let direct := match how with
    | .no => false
    | _ => true
  let asks := match how with
    | .asks _ => true
    | _ => false
  let assigns := ["export", "readonly", "local"].contains (name.getD "")
  let fields := front ++ (← p.argumentFields assigns rest)
  let what : Option Meaning ← match name with
    | none => pure none
    | some name => if asks then pure none else some <$> meaning name direct
  let special := match what with
    | some (.builtin _ special) => special && !direct
    | _ => false
  let aims ← p.aims redirects
  let keep := match what with
    | some (.builtin _ _) => name = some "exec"
    | _ => false
  let permanent := special || (what.isNone && !asks)
  let outcome ← p.redirected aims fun saved => do
    if permanent then
      let values ← p.setFor false assignments
      trace values fields saved
      match what with
      | some (.builtin run _) => return (← p.callBuiltin m run true fields, keep)
      | _ => return ((← get).substituted, keep)
    else
      unless assignments.isEmpty do modify fun s => { s with scopes := [] :: s.scopes }
      let result ← caught do
        let values ← p.setFor true assignments
        trace values fields saved
        match how, what with
        | .asks inWords, _ =>
          match fields with
          | [] => return 0
          | name :: _ => describe name inWords
        | _, some (.builtin run _) => p.callBuiltin m run false fields
        | _, some (.function body) => p.callFunction m body fields.tail
        | _, some .program => p.callProgram m fields
        | _, none => return (← get).substituted
      unless assignments.isEmpty do leaveScope
      match result with
      | .ok status => return (status, keep)
      | .error jump => throw jump
  match outcome with
  | some status => setStatus status
  | none =>
    setStatus 2
    if special then throw .failed

/-! ## Compound commands -/

/-- How a turn of a loop ends. -/
inductive Turn
  | done
  /-- The next turn begins at once. -/
  | cut
  /-- There is no other turn. -/
  | last
  deriving DecidableEq

/-- Does something as a turn of a loop. -/
def turn (body : Sh Unit) : Sh Turn := do
  let s ← get
  set { s with loops := s.loops + 1 }
  let result ← caught body
  modify fun now => { now with loops := s.loops }
  match result with
  | .ok _ => return .done
  | .error (.break_ n) => if n ≤ 1 then return .last else throw (.break_ (n - 1))
  | .error (.continue_ n) => if n ≤ 1 then return .cut else throw (.continue_ (n - 1))
  | .error jump => throw jump

/-- How often a loop may be run through. -/
def loopFuel : Nat := 1000000000

/-- Runs a loop as long as its condition lets it. -/
def runLoop (p : Player) (m : Manner) (untilTrue : Bool) (condition body : Script) :
    Nat → Nat → Sh Nat
  | 0, status => return status
  | fuel + 1, status => do
    match ← turn (p.execute { tested := true } condition) with
    | .last => return status
    | .cut => p.runLoop m untilTrue condition body fuel status
    | .done =>
      if ((← get).status = 0) = untilTrue then return status
      let how ← turn (p.execute { tested := m.tested } body)
      let status := (← get).status
      if how = .last then return status
      p.runLoop m untilTrue condition body fuel status

/-- Runs a script once for each of some texts. -/
def runEach (p : Player) (m : Manner) (name : String) (body : Script) : List String → Nat → Sh Nat
  | [], status => return status
  | text :: rest, _ => do
    setVariable name text
    let how ← turn (p.execute { tested := m.tested } body)
    let status := (← get).status
    if how = .last then return status else p.runEach m name body rest status

/-- The first of some cases that a text fits. -/
def chosenCase (p : Player) (text : List Char) : List (List Word × Script) → Sh (Option Script)
  | [] => return none
  | (patterns, body) :: rest => do
    if ← fitsAny patterns then return some body
    p.chosenCase text rest
where
  fitsAny : List Word → Sh Bool
    | [] => return false
    | w :: rest => do
      if (← expandPattern p.runner w).fits text then return true
      fitsAny rest

/-- Runs a script whose parts are run by the player. -/
def step (p : Player) (m : Manner) (script : Script) : Sh Unit := do
  p.attend
  let checked ← if (← get).options.has 'n' then pure false else part
  p.attend
  let s ← get
  if checked && !m.tested && s.status ≠ 0 && s.options.has 'e' then throw .leave
  if m.last then throw .leave
where
  part : Sh Bool := do
    match script with
    | .nothing => return false
    | .simple line assignments words redirects =>
      p.runSimple m line assignments words redirects
      return true
    | .sequence first second =>
      p.execute { tested := m.tested } first
      p.execute m second
      return false
    | .both first second =>
      p.execute { tested := true } first
      if (← get).status = 0 then p.execute m second
      return false
    | .either first second =>
      p.execute { tested := true } first
      if (← get).status ≠ 0 then p.execute m second
      return false
    | .negation body =>
      p.execute { tested := true } body
      setStatus (if (← get).status = 0 then 1 else 0)
      return false
    | .pipe stages =>
      let pids ← p.startStages { m with last := true } false stages none []
      setStatus (← await pids)
      return true
    | .background body =>
      let pids ← match body with
        | .pipe stages => p.startStages {} true stages none []
        | body => do
          let pid ← p.inChild do
            withdraw true
            p.execute { last := true } body
          pure [pid]
      let _ ← startJob pids
      modify fun s => { s with background := pids.getLast? }
      setStatus 0
      return true
    | .choice condition yes no =>
      p.execute { tested := true } condition
      if (← get).status = 0 then p.execute m yes
      else
        match no with
        | .nothing => setStatus 0
        | no => p.execute m no
      return false
    | .loop untilTrue condition body =>
      setStatus (← p.runLoop m untilTrue condition body loopFuel 0)
      return false
    | .each line name items body =>
      modify fun s => { s with line }
      let texts ← match items with
        | some words => expandWords p.runner words
        | none => do pure (← get).arguments
      setStatus (← p.runEach m name body texts 0)
      return false
    | .select line word cases =>
      modify fun s => { s with line }
      let text ← expandWhole p.runner word
      match ← p.chosenCase text.toList cases with
      | none => setStatus 0
      | some .nothing => setStatus 0
      | some body => p.execute m body
      return false
    | .subshell line body redirects =>
      modify fun s => { s with line }
      let aims ← p.aims redirects
      let inside : Sh Unit := do
        let _ ← (p.redirect false aims).run []
        p.execute { m with last := true } body
      if m.last && !(← hasTraps) then
        becomeChild
        inside
      else setStatus (← await [← p.inChild inside])
      return true
    | .redirected line body redirects =>
      modify fun s => { s with line }
      let aims ← p.aims redirects
      match ← p.redirected aims fun _ => do
          p.execute { tested := m.tested } body
          return ((), false) with
      | some _ => return false
      | none =>
        setStatus 2
        return true
    | .define name body =>
      modify fun s => { s with functions := replaceEntry name body s.functions }
      setStatus 0
      return false

end Player

/-- How deep the parts of scripts, and the functions and texts that they run, may be nested. -/
def executionDepth : Nat := 100000

/-- Runs a script. -/
def execute (launch : Launch) : Nat → Manner → Script → Sh Unit
  | 0, _, _ => fail "too deep"
  | fuel + 1, m, script => Player.step ⟨launch, execute launch fuel⟩ m script

/-- What runs all of a script. -/
def player (launch : Launch) : Player := ⟨launch, execute launch executionDepth⟩

end Testbed.Rehearsal.Machine.Shell
