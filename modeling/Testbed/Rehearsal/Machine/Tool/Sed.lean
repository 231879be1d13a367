import Testbed.Rehearsal.Machine.Tool.Sed.Reader
/-!
# Editing a stream

A script of commands is read once and then run for each line: the line is in the pattern space,
where commands change it, and what is left there at the end is said. A second space holds a text
from line to line.
-/
namespace Testbed.Rehearsal.Machine.Tool.Sed

open Act

open Text (Pattern)

/-! ## Running scripts -/

/-- The lines that are still to come. -/
structure Input where
  paths : List String
  fd : Option Nat := none
  /-- Lines without their ends that were read, and whether they have ends. -/
  ready : List (List Char × Bool) := []
  /-- The begin of a line whose end was not read yet. -/
  begun : List Char := []
  name : String := "-"

/-- Where a run is. -/
structure Run where
  input : Input
  space : List Char := []
  held : List Char := []
  line : Nat := 0
  /-- Whether the line has an end. -/
  ended : Bool := true
  /-- What is to be said behind this line. -/
  behind : List (List Char) := []
  replaced : Bool := false
  last : Regex := none
  /-- The lines at which ranges end that have begun, by the numbers of their commands. -/
  ranges : List (Nat × Option Nat) := []
  files : List (String × Nat) := []
  /-- Whether the end of the last line that was said is missing. -/
  missing : Bool := false
  /-- What was said, if it goes to a file at the end. -/
  kept : Option (Array Char) := none
  silent : Bool := false
  /-- What ends a line. -/
  mark : Char := '\n'

abbrev Edit (α : Type) := StateT Run Act α

def act {α : Type} (a : Act α) : Edit α := StateT.lift a

/-- Opens the next input and reads until a line is ready, or nothing is left. -/
def fill : Nat → Edit Unit
  | 0 => return ()
  | fuel + 1 => do
    let r ← get
    let i := r.input
    unless i.ready.isEmpty do return ()
    match i.fd with
    | none =>
      match i.paths with
      | [] => return ()
      | path :: rest =>
        if path = "-" then
          set { r with input := { i with paths := rest, fd := some 0, name := "-" } }
        else
          match ← act (sys (.open path .read)) with
          | .ok fd =>
            set { r with input := { i with paths := rest, fd := some fd, name := path } }
          | .error e =>
            act (trouble s!"can't read {path}: {e.words.1}" 2)
            set { r with input := { i with paths := rest } }
        fill fuel
    | some fd =>
      let finish (i : Input) : Edit Unit := do
        unless fd = 0 do
          let _ ← act (sys (.close fd))
        -- what is left is a line without an end
        let ready := if i.begun.isEmpty then [] else [(i.begun, false)]
        set { r with input := { i with fd := none, begun := [], ready } }
        fill fuel
      match ← act (sys (.read fd 4096)) with
      | .ok [] => finish i
      | .error e =>
        act (fail s!"read error on {i.name}: {e.words.1}" 4)
      | .ok text =>
        let pieces := Text.cutAt r.mark (i.begun ++ text)
        let ready := pieces.dropLast.map (·, true)
        set { r with input := { i with ready, begun := pieces.getLast?.getD [] } }
        fill fuel

/-- Whether no line is left. -/
def atEnd : Edit Bool := do
  fill streamFuel
  return (← get).input.ready.isEmpty

/-- Takes the next line into the pattern space, as `join` tells; whether there was one. -/
def nextLine (join : List Char → List Char → List Char) : Edit Bool := do
  fill streamFuel
  let r ← get
  match r.input.ready with
  | [] => return false
  | (line, ended) :: rest =>
    set { r with
      input := { r.input with ready := rest }, line := r.line + 1, ended
      space := join line r.space }
    return true

/-- Says something on standard output, or keeps it for a file. -/
def emit (text : List Char) : Edit Unit := do
  let r ← get
  match r.kept with
  | some kept => set { r with kept := some (kept ++ text.toArray) }
  | none => act (put 1 text 4)

/-- Says a text, behind the end of a line that is still missing. -/
def sayText (text : List Char) : Edit Unit := do
  if (← get).missing then
    emit [(← get).mark]
    modify fun r => { r with missing := false }
  emit text

/-- Says a line, with an end if the line that was read has one. -/
def sayLine (line : List Char) : Edit Unit := do
  if (← get).ended then sayText (line ++ [(← get).mark])
  else
    sayText line
    modify fun r => { r with missing := true }

/-- Says what is to be said behind the line. -/
def flush : Edit Unit := do
  let r ← get
  set { r with behind := [] }
  for text in r.behind do sayText text

def noRegex {α : Type} : Act α :=
  fail "-e expression #1, char 0: no previous regular expression"

/-- Whether a pattern occurs in the pattern space. -/
def occurs (r : Regex) : Edit Bool := do
  let run ← get
  let p := r <|> run.last
  set { run with last := p }
  match p with
  | some p => return p.isFoundIn run.space
  | none => act noRegex

def fitsAddress : Address → Edit Bool
  | .line n => do return (← get).line = n
  | .lastLine => atEnd
  | .every first step => do
    let line := (← get).line
    return if step = 0 then line = first else first ≤ line && (line - first) % step = 0
  | .fits r => occurs r
  | .further _ => return false
  | .upTo _ => return false

/-- Whether the addresses of a command fit the line. -/
def selected (n : Nat) (c : Command) : Edit Bool := do
  let fits ← match c.first, c.second with
    | none, _ => pure true
    | some a, none => fitsAddress a
    | some a, some b => do
      let line := (← get).line
      let leave : Edit Unit := modify fun r => { r with ranges := r.ranges.filter (·.1 ≠ n) }
      match (← get).ranges.lookup n with
      | some stop =>
        match stop, b with
        | some last, _ =>
          if last ≤ line then leave
          pure (line ≤ last)
        | none, b =>
          if ← fitsAddress b then leave
          pure true
      | none =>
        let begins : Bool ← if a = .line 0 then pure (line = 1) else fitsAddress a
        if !begins then pure false
        else
          let stay (stop : Option Nat) : Edit Unit :=
            modify fun r => { r with ranges := (n, stop) :: r.ranges }
          match b with
          | .line last => if line < last then stay (some last)
          | .further k => if 0 < k then stay (some (line + k))
          | .upTo k => if 0 < k && line % k ≠ 0 then stay (some (line / k * k + k))
          | .fits r =>
            if a = .line 0 then
              unless ← occurs r do stay none
            else stay none
          | _ => unless ← fitsAddress b do stay none
          pure true
  return fits ≠ c.negated

/-- Changes the case of letters, for all or only for the first. -/
structure Casing where
  always : Option Bool := none
  once : Option Bool := none

def cased (k : Casing) (text : List Char) : List Char × Casing :=
  let change (up : Option Bool) (c : Char) : Char :=
    match up with
    | some true => c.toUpper
    | some false => c.toLower
    | none => c
  match text with
  | [] => ([], k)
  | c :: rest =>
    let first := match k.once with
      | some up => change (some up) c
      | none => change k.always c
    (first :: rest.map (change k.always), { k with once := none })

/-- What a replacement comes to. -/
def replacement (space : List Char) (whole : Nat × Nat) (groups : Pattern.Groups) :
    List Part → Casing → List Char
  | [], _ => []
  | part :: rest, k =>
    let part_ (first last : Nat) : List Char := (space.drop first).take (last - first)
    let goOn (text : List Char) : List Char :=
      let (text, k) := cased k text
      text ++ replacement space whole groups rest k
    match part with
    | .text cs => goOn cs
    | .group 0 => goOn (part_ whole.1 whole.2)
    | .group n =>
      match groups.lookup n with
      | some (first, last) => goOn (part_ first last)
      | none => goOn []
    | .case 'U' => replacement space whole groups rest { always := some true }
    | .case 'L' => replacement space whole groups rest { always := some false }
    | .case 'u' => replacement space whole groups rest { k with once := some true }
    | .case 'l' => replacement space whole groups rest { k with once := some false }
    | .case _ => replacement space whole groups rest {}

/-- The text after some matches are replaced, and whether any was. `count` matches lie before. -/
def replaced (s : Substitution) (p : Pattern) (space : List Char) :
    Nat → Nat → Nat → List Char × Bool
  | 0, start, _ => (space.drop start, false)
  | fuel + 1, start, count =>
    match p.find? space start with
    | none => (space.drop start, false)
    | some (first, last, groups) =>
      let front := (space.drop start).take (first - start)
      let count := count + 1
      let chosen := s.number ≤ count
      let text := if chosen then replacement space (first, last) groups s.parts {}
        else (space.drop first).take (last - first)
      if chosen && !s.all then (front ++ text ++ space.drop last, true)
      else if last = first then
        -- an empty match: the next character stays, and the search goes on behind it
        match space[first]? with
        | none => (front ++ text, chosen)
        | some c =>
          let (rest, more) := replaced s p space fuel (first + 1) count
          (front ++ text ++ c :: rest, chosen || more)
      else
        let (rest, more) := goOn fuel last count
        (front ++ text ++ rest, chosen || more)
where
  /-- Goes on behind a match: an empty one that touches it does not count. -/
  goOn (fuel last count : Nat) : List Char × Bool :=
    match p.find? space last with
    | some (first, next, _) =>
      if first = last && next = last then
        match space[last]? with
        | none => ([], false)
        | some c =>
          let (rest, more) := replaced s p space fuel (last + 1) count
          (c :: rest, more)
      else replaced s p space fuel last count
    | none => (space.drop last, false)

/-- The pattern space in a form that can be seen, in lines of some width. -/
def listed (width : Nat) (space : List Char) : List Char :=
  let form (c : Char) : List Char :=
    match c with
    | '\\' => ['\\', '\\']
    | '\x07' => ['\\', 'a']
    | '\x08' => ['\\', 'b']
    | '\x0c' => ['\\', 'f']
    | '\n' => ['\\', 'n']
    | '\r' => ['\\', 'r']
    | '\t' => ['\\', 't']
    | '\x0b' => ['\\', 'v']
    | c =>
      if ' ' ≤ c && c ≤ '~' then [c]
      else
        let digits := Nat.toDigits 8 c.toNat
        '\\' :: List.replicate (3 - digits.length) '0' ++ digits
  let (done, row) := space.foldl (fun (done, row) c =>
    let text := form c
    if 1 < width && width - 1 < row.length + text.length then (done ++ row ++ ['\\', '\n'], text)
    else (done, row ++ text)) (([] : List Char), ([] : List Char))
  done ++ row ++ ['$', '\n']

/-- How a run of the script ends. -/
inductive Outcome
  /-- With what is in the pattern space, unless it is not to be said. -/
  | done (shows : Bool)
  /-- The script runs again, with what is in the pattern space. -/
  | again
  | quit (code : Nat) (shows : Bool)

def writeTo (path : String) (text : List Char) : Edit Unit := do
  if path = "/dev/stdout" then sayText text
  else
    match (← get).files.lookup path with
    | some fd => act (put fd text 4)
    | none => return ()

/-- The number of the command behind a label. -/
def behindLabel (script : Array Command) (name : String) : Nat :=
  if name.isEmpty then script.size
  else (script.findIdx? fun c =>
    match c.action with
    | .label other => other = name
    | _ => false).getD script.size

/-- Runs the commands from one on. -/
def runFrom (script : Array Command) : Nat → Nat → Edit Outcome
  | 0, _ => return .done true
  | fuel + 1, n => do
    match script[n]? with
    | none => return .done true
    | some c =>
      let goOn : Edit Outcome := runFrom script fuel (n + 1)
      if !(← selected n c) then
        match c.action with
        | .block behind => runFrom script fuel behind
        | _ => goOn
      else
        let r ← get
        let firstLine := r.space.takeWhile (· ≠ '\n')
        match c.action with
        | .block _ => goOn
        | .nothing => goOn
        | .label _ => goOn
        | .number =>
          sayText (Text.decimal r.line ++ "\n").toList
          goOn
        | .append text =>
          set { r with behind := r.behind ++ [text] }
          goOn
        | .insert text =>
          sayText text
          goOn
        | .change text =>
          let inRange := c.second.isSome && !c.negated && r.ranges.any (·.1 = n)
          unless inRange do sayText text
          return .done false
        | .jump name => runFrom script fuel (behindLabel script name)
        | .jumpIf name wanted =>
          set { r with replaced := false }
          if r.replaced = wanted then runFrom script fuel (behindLabel script name) else goOn
        | .delete => return .done false
        | .deleteFirst =>
          if r.space.contains '\n' then
            set { r with space := r.space.drop (firstLine.length + 1) }
            return .again
          else return .done false
        | .print =>
          sayLine r.space
          goOn
        | .printFirst =>
          sayText (firstLine ++ [r.mark])
          goOn
        | .hold =>
          set { r with held := r.space }
          goOn
        | .holdMore =>
          set { r with held := r.held ++ '\n' :: r.space }
          goOn
        | .get =>
          set { r with space := r.held }
          goOn
        | .getMore =>
          set { r with space := r.space ++ '\n' :: r.held }
          goOn
        | .exchange =>
          set { r with space := r.held, held := r.space }
          goOn
        | .next =>
          if ← atEnd then return .quit 0 true
          unless r.silent do sayLine r.space
          flush
          let _ ← nextLine fun line _ => line
          goOn
        | .nextMore =>
          if ← atEnd then return .quit 0 true
          flush
          let _ ← nextLine fun line space => space ++ '\n' :: line
          goOn
        | .quit code shows => return .quit code shows
        | .readFile path =>
          match ← act (contentOf path false) with
          | .ok text => modify fun r => { r with behind := r.behind ++ [text] }
          | .error _ => pure ()
          goOn
        | .writeFile path =>
          writeTo path (r.space ++ ['\n'])
          goOn
        | .substitute s =>
          let p := match s.regex with
            | some p => some p
            | none => r.last
          match p with
          | none => act noRegex
          | some p =>
            modify fun r => { r with last := some p }
            let (space, changed) := replaced s p r.space (r.space.length + 2) 0 0
            if changed then
              modify fun r => { r with space, replaced := true }
              if s.prints then sayLine space
              match s.file with
              | some path => writeTo path (space ++ ['\n'])
              | none => pure ()
            goOn
        | .transliterate table =>
          set { r with space := r.space.map fun c => (table.lookup c).getD c }
          goOn
        | .list width =>
          sayText (listed (width.getD 70) r.space)
          goOn
        | .zap =>
          set { r with space := [] }
          goOn
        | .fileName =>
          sayText (r.input.name ++ "\n").toList
          goOn

/-- Runs the script for all lines. -/
def runAll (script : Array Command) : Nat → Bool → Edit Nat
  | 0, _ => return 0
  | fuel + 1, again => do
    let goesOn ← if again then pure true
      else
        modify fun r => { r with replaced := false }
        nextLine fun line _ => line
    if !goesOn then return 0
    let outcome ← runFrom script 100000000 0
    let finish (shows : Bool) : Edit Unit := do
      let r ← get
      if shows && !r.silent then sayLine r.space
      flush
    match outcome with
    | .done shows =>
      finish shows
      runAll script fuel false
    | .again =>
      flush
      runAll script fuel true
    | .quit code shows =>
      if shows then finish true
      return code

/-- The files that a script writes to. -/
def targets (script : Array Command) : List String :=
  script.toList.filterMap fun c =>
    match c.action with
    | .writeFile path => some path
    | .substitute s => s.file
    | _ => none

def grammar : Grammar where
  kinds := [⟨'n', "quiet", .nothing⟩, ⟨'n', "silent", .nothing⟩, ⟨'e', "expression", .argument⟩,
    ⟨'f', "file", .argument⟩, ⟨'i', "in-place", .maybe⟩, ⟨'E', "regexp-extended", .nothing⟩,
    ⟨'r', "", .nothing⟩, ⟨'s', "separate", .nothing⟩, ⟨'u', "unbuffered", .nothing⟩,
    ⟨'z', "null-data", .nothing⟩, ⟨'l', "line-length", .argument⟩]

end Sed

open Sed Act in
def sed : Tool := fun arguments => do
  let (chosen, operands) ← Sed.grammar.all arguments
  let mut texts : List String := []
  for (letter, text) in chosen do
    if letter = 'e' then texts := texts ++ [text]
    if letter = 'f' then
      match ← contentOf text with
      | .ok content =>
        let content := if content.getLast? = some '\n' then content.dropLast else content
        texts := texts ++ [String.ofList content]
      | .error e => fail s!"couldn't open file {text}: {e.words.1}"
  let given := chosen.has 'e' || chosen.has 'f'
  if !given && operands.isEmpty then
    let script := "\x7bscript-only-if-no-other-script\x7d"
    let _ ← sys (.write 2 s!"Usage: sed [OPTION]... {script} [input-file]...\n".toList)
    quit 1
  let scripts := if given then texts else operands.take 1
  let files := if given then operands else operands.drop 1
  -- a first line of this form stands for the option
  let silent := chosen.has 'n' || (scripts.head?.map fun text =>
    text = "#n" || Text.startsWith ['#', 'n', '\n'] text.toList).getD false
  match readScript (chosen.has 'E' || chosen.has 'r') scripts with
  | .error (text, status) => fail text status
  | .ok script =>
    let mut opened : List (String × Nat) := []
    for path in targets script do
      unless path = "/dev/stdout" || opened.any (·.1 = path) do
        match ← sys (.open path .write) with
        | .ok fd => opened := (path, fd) :: opened
        | .error e => fail s!"couldn't open file {path}: {e.words.1}" 4
    let fuel := 100000000
    let mark := if chosen.has 'z' then '\x00' else '\n'
    if chosen.has 'i' then
      let suffix := (chosen.text? 'i').getD ""
      for path in files do
        match ← sys (.status path) with
        | .error e => trouble s!"can't read {path}: {e.words.1}" 2
        | .ok s =>
          if s.kind ≠ .file then trouble s!"couldn't edit {path}: not a regular file" 4
          else
            let start : Run :=
              { input := { paths := [path] }, silent, files := opened, kept := some #[], mark }
            let (code, r) ← (runAll script fuel false).run start
            unless suffix.isEmpty do
              match ← contentOf path false with
              | .ok old =>
                let _ ← writeFile (path ++ suffix) old
              | .error _ => pure ()
            let _ ← writeFile path (r.kept.getD #[]).toList
            if code ≠ 0 then quit code
    else
      let runs := if chosen.has 's' then (inputsOf files).map ([·]) else [inputsOf files]
      for paths in runs do
        let start : Run := { input := { paths }, silent, files := opened, mark }
        let (code, _) ← (runAll script fuel false).run start
        if code ≠ 0 then quit code

/-- The tools of this module by their names. -/
def editingTools : List (String × Tool) := [("sed", sed)]

end Testbed.Rehearsal.Machine.Tool
