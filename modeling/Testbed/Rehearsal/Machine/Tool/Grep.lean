import Testbed.Rehearsal.Machine.Tool.Expression
import Testbed.Rehearsal.Machine.Tool.Reading
/-!
# Lines that match

Programs that look for lines in which a pattern occurs, in files or in whole directories.
-/
namespace Testbed.Rehearsal.Machine.Tool

open Act

open Text (Pattern)

/-- What is looked for, and what is said of it. -/
structure Search where
  patterns : List Pattern
  invert : Bool := false
  count : Bool := false
  /-- Whether only the names are said of files that hold such lines, or of those that do not. -/
  names : Option Bool := none
  parts : Bool := false
  quiet : Bool := false
  numbers : Bool := false
  offsets : Bool := false
  named : Bool := false
  most : Option Nat := none
  above : Nat := 0
  below : Nat := 0
  silent : Bool := false
  /-- Whether what is no text is said too. -/
  binary : Bool := false

def grepGrammar : Grammar where
  kinds := [⟨'E', "extended-regexp", .nothing⟩, ⟨'F', "fixed-strings", .nothing⟩,
    ⟨'G', "basic-regexp", .nothing⟩, ⟨'i', "ignore-case", .nothing⟩, ⟨'y', "", .nothing⟩,
    ⟨'v', "invert-match", .nothing⟩, ⟨'w', "word-regexp", .nothing⟩,
    ⟨'x', "line-regexp", .nothing⟩, ⟨'c', "count", .nothing⟩,
    ⟨'l', "files-with-matches", .nothing⟩, ⟨'L', "files-without-match", .nothing⟩,
    ⟨'o', "only-matching", .nothing⟩, ⟨'q', "quiet", .nothing⟩, ⟨'q', "silent", .nothing⟩,
    ⟨'s', "no-messages", .nothing⟩, ⟨'n', "line-number", .nothing⟩,
    ⟨'b', "byte-offset", .nothing⟩, ⟨'H', "with-filename", .nothing⟩,
    ⟨'h', "no-filename", .nothing⟩, ⟨'e', "regexp", .argument⟩, ⟨'f', "file", .argument⟩,
    ⟨'m', "max-count", .argument⟩, ⟨'A', "after-context", .argument⟩,
    ⟨'B', "before-context", .argument⟩, ⟨'C', "context", .argument⟩,
    ⟨'r', "recursive", .nothing⟩, ⟨'R', "dereference-recursive", .nothing⟩,
    ⟨'a', "text", .nothing⟩, ⟨'I', "", .nothing⟩, ⟨'\x01', "color", .maybe⟩,
    ⟨'\x01', "colour", .maybe⟩, ⟨'P', "perl-regexp", .nothing⟩, ⟨'z', "null-data", .nothing⟩,
    ⟨'u', "", .nothing⟩, ⟨'\x02', "include", .argument⟩, ⟨'\x03', "line-buffered", .nothing⟩]
  status := 2

/-- The place of a search in a file. -/
structure Search.Place where
  line : Nat := 0
  offset : Nat := 0
  found : Nat := 0
  /-- The lines above that were not said, the last one first. -/
  kept : List (List Char) := []
  /-- How many of the next lines are said because of one above them. -/
  owed : Nat := 0
  /-- The number of the last line that was said. -/
  said : Option Nat := none
  /-- Whether the file was found to be none of text. -/
  isBinary : Bool := false

/-- The parts of a line that match, one behind another. -/
def matchedParts (patterns : List Pattern) (line : List Char) :
    Nat → Nat → List (Nat × List Char)
  | 0, _ => []
  | fuel + 1, start =>
    let found := patterns.filterMap fun p =>
      ((List.range (line.length + 1)).drop start).findSome? fun first =>
        let last? := if p.refers then (p.longestFrom? line first).map (·.1)
          else (p.endsFrom line first).getLast?
        last?.bind fun last => if first < last then some (first, last) else none
    let best := found.foldl (fun best (first, last) =>
      match best with
      | none => some (first, last)
      | some (a, b) => if first < a || (first = a && b < last) then some (first, last) else best)
      (none : Option (Nat × Nat))
    match best with
    | none => []
    | some (first, last) =>
      (first, (line.drop first).take (last - first)) :: matchedParts patterns line fuel last

/-- What stands in front of a line. -/
def Search.front (s : Search) (name : String) (line offset : Nat) (mark : Char) : List Char :=
  let sign := mark.toString
  ((if s.named then name ++ sign else "") ++
    (if s.numbers then Text.decimal line ++ sign else "") ++
    (if s.offsets then Text.decimal offset ++ sign else "")).toList

/-- Says a line that was found, with those above it that belong to it. -/
def Search.sayFound (s : Search) (name : String) (p : Search.Place) (line : List Char) :
    Act Search.Place := do
  let above := (p.kept.take s.above).reverse
  let first := p.line - above.length
  if (0 < s.above || 0 < s.below) && p.said.any (· + 1 < first) then say "--\n"
  let mut n := first
  let mut offset := p.offset - above.foldl (fun n text => n + text.length + 1) 0
  for text in above do
    put 1 (s.front name n offset '-' ++ text ++ ['\n']) 2
    n := n + 1
    offset := offset + text.length + 1
  if s.parts then
    unless s.invert do
      for (first, text) in matchedParts s.patterns line (line.length + 1) 0 do
        put 1 (s.front name p.line (p.offset + first) ':' ++ text ++ ['\n']) 2
  else put 1 (s.front name p.line p.offset ':' ++ line ++ ['\n']) 2
  return { p with kept := [], owed := s.below, said := some p.line }

/-- Looks at a line; whether the search goes on. -/
def Search.step (s : Search) (name : String) (p : Search.Place) (line : List Char) :
    Act (Search.Place × Bool) := do
  let p := { p with line := p.line + 1 }
  let isFound := s.patterns.any (·.isFoundIn line) ≠ s.invert
  let next (p : Search.Place) : Search.Place := { p with offset := p.offset + line.length + 1 }
  let enough (n : Nat) : Bool := s.most.any (· ≤ n)
  if isFound && !enough p.found then
    let p := { p with found := p.found + 1 }
    if s.quiet || s.names.isSome then return (next p, false)
    if s.count then return (next p, !enough p.found)
    if p.isBinary && !s.binary then
      complain s!"{name}: binary file matches"
      return (next p, false)
    let p ← s.sayFound name p line
    return (next p, !enough p.found || 0 < s.below)
  else if 0 < p.owed && !s.count then
    if isFound then return (next p, false)
    unless s.parts do put 1 (s.front name p.line p.offset '-' ++ line ++ ['\n']) 2
    let p := { p with owed := p.owed - 1, said := some p.line }
    return (next p, !enough p.found || 0 < p.owed)
  else
    return (next { p with kept := line :: p.kept.take s.above }, !enough p.found)

/-- Looks at some lines. -/
def Search.lines (s : Search) (name : String) : List (List Char) → Search.Place →
    Act (Search.Place × Bool)
  | [], p => return (p, true)
  | line :: rest, p => do
    let (p, goesOn) ← s.step name p line
    if goesOn then s.lines name rest p else return (p, false)

/-- Looks at the lines of a stream as they come. `rest` is the begin of a line. -/
def Search.stream (s : Search) (name : String) : Nat → Nat → List Char → Search.Place →
    Act (Except OsError Search.Place)
  | 0, _, _, p => return .ok p
  | fuel + 1, fd, rest, p => do
    match ← sys (.read fd 32768) with
    | .error e => return .error e
    | .ok [] =>
      if rest.isEmpty then return .ok p
      return .ok (← s.step name p rest).1
    | .ok text =>
      let pieces := Text.cutAt '\n' (rest ++ text)
      let p := { p with isBinary := p.isBinary || text.contains '\x00' }
      let (p, goesOn) ← s.lines name pieces.dropLast p
      if goesOn then s.stream name fuel fd (pieces.getLast?.getD []) p else return .ok p

/-- Looks at a file; how many lines were found. -/
def Search.file (s : Search) (path : String) : Act (Option Nat) := do
  let name := if path = "-" then "(standard input)" else path
  let opened ← if path = "-" then pure (.ok 0) else sys (.open path .read)
  let shown := if path = "-" then "(standard input)" else path
  match opened with
  | .error e =>
    unless s.silent do complain s!"{shown}: {e.words.1}"
    return none
  | .ok fd =>
    let result ← s.stream name streamFuel fd [] {}
    unless fd = 0 do
      let _ ← sys (.close fd)
    match result with
    | .error e =>
      unless s.silent do complain s!"{shown}: {e.words.1}"
      return none
    | .ok p =>
      if s.count && s.names.isNone && !s.quiet then
        say ((if s.named then name ++ ":" else "") ++ Text.decimal p.found ++ "\n")
      match s.names with
      | some wanted => if (0 < p.found) = wanted && !s.quiet then say s!"{name}\n"
      | none => pure ()
      return some p.found

/-- The files below a path, in the order of a walk. -/
def filesBelow : Nat → String → Act (List String)
  | 0, path => return [path]
  | fuel + 1, path => do
    match ← sys (.status path) with
    | .ok { kind := .directory, .. } =>
      match ← sys (.list path) with
      | .ok names =>
        let below := names.mergeSort fun a b => a ≤ b
        let front := if path.toList.getLast? = some '/' then path else path ++ "/"
        return (← below.mapM fun name => filesBelow fuel (front ++ name)).flatten
      | .error _ => return [path]
    | _ => return [path]

/-- The patterns that a text writes, one on each line. -/
def patternsOf (chosen : Chosen) (extended fixed : Bool) (text : String) : Act (List Pattern) := do
  let style : Expression.Style :=
    { extended, ignoreCase := chosen.has 'i' || chosen.has 'y' }
  (Text.cutAt '\n' text.toList).mapM fun line => do
    let plain ← if fixed then
        pure (Pattern.ofList (line.map (Expression.literal style)))
      else
        match Expression.read style line with
        | .ok w =>
          for text in w.idle do complain s!"warning: {text} at start of expression"
          pure w.pattern
        | .error e => fail e.message 2
    let ws := Expression.wordSet
    let p : Pattern :=
      if chosen.has 'x' then .sequence (.edge .textStart) (.sequence plain (.edge .textEnd))
      else if chosen.has 'w' then
        .sequence (.edge (.noWordBefore ws)) (.sequence plain (.edge (.noWordAfter ws)))
      else plain
    return p

/-- A number of lines that an option gives. -/
def contextOf (chosen : Chosen) (letters : List Char) : Act Nat := do
  match chosen.reverse.find? fun c => letters.contains c.1 with
  | none => return 0
  | some (_, text) =>
    match Text.digits? text.toList with
    | some n => return n
    | none => fail s!"{text}: invalid context length argument" 2

def grepWith (extended fixed : Bool) : Tool := fun arguments => do
  let usage {α : Type} : Act α := do
    let text := "Usage: grep [OPTION]... PATTERNS [FILE]...\n" ++
      "Try 'grep --help' for more information.\n"
    let _ ← sys (.write 2 text.toList)
    quit 2
  -- a number is an amount of context
  let arguments := arguments.map fun text =>
    match text.toList with
    | '-' :: c :: digits =>
      if (c :: digits).all Char.isDigit then "-C" ++ String.ofList (c :: digits) else text
    | _ => text
  let unknown := arguments.find? fun text =>
    match text.toList with
    | '-' :: c :: _ => c ≠ '-' && !grepGrammar.kinds.any (·.letter = c)
    | _ => false
  match unknown with
  | some text =>
    if !(arguments.takeWhile (· ≠ text)).contains "--" then
      let letter := String.ofList ((text.toList.drop 1).take 1)
      complain s!"invalid option -- '{letter}'"
      usage
  | none => pure ()
  let (chosen, operands) ← grepGrammar.all arguments
  let mut listed := (chosen.filter (·.1 = 'e')).map (·.2)
  for (letter, path) in chosen do
    if letter = 'f' then
      match ← contentOf path with
      | .ok text => listed := listed ++ ((linesOf text).1.map String.ofList)
      | .error e => fail s!"{path}: {e.words.1}" 2
  let given := chosen.has 'e' || chosen.has 'f'
  if !given && operands.isEmpty then usage
  let texts := if given then listed else operands.take 1
  let files := if given then operands else operands.drop 1
  let extended := match chosen.lastOf ['E', 'F', 'G', 'P'] with
    | some c => c = 'E' || c = 'P'
    | none => extended
  let fixed := match chosen.lastOf ['E', 'F', 'G', 'P'] with
    | some c => c = 'F'
    | none => fixed
  let patterns := (← texts.mapM (patternsOf chosen extended fixed)).flatten
  let deep := chosen.has 'r' || chosen.has 'R'
  let paths := if files.isEmpty then [if deep then "." else "-"] else files
  let mut inputs : List String := []
  for path in paths do
    if deep && path ≠ "-" then
      let below ← filesBelow 1000 path
      inputs := inputs ++ if files.isEmpty then below.map fun p => String.ofList (p.toList.drop 2)
        else below
    else inputs := inputs ++ [path]
  let named := match chosen.lastOf ['H', 'h'] with
    | some c => c = 'H'
    | none => 1 < files.length || deep
  let most ← match chosen.text? 'm' with
    | none => pure none
    | some text =>
      match Text.digits? text.toList with
      | some n => pure (some n)
      | none => fail "invalid max count" 2
  let s : Search :=
    { patterns, named, most
      invert := chosen.has 'v', count := chosen.has 'c', parts := chosen.has 'o'
      names := (chosen.lastOf ['l', 'L']).map (· = 'l')
      quiet := chosen.has 'q', numbers := chosen.has 'n', offsets := chosen.has 'b'
      above := ← contextOf chosen ['B', 'C'], below := ← contextOf chosen ['A', 'C']
      silent := chosen.has 's', binary := chosen.has 'a' }
  let mut selected := false
  let mut failed := false
  for path in inputs do
    match ← s.file path with
    | some n =>
      if (if s.names = some false then n = 0 else 0 < n) then
        selected := true
        if s.quiet then quit 0
    | none => failed := true
  setStatus (if failed && !(selected && s.quiet) then 2 else if selected then 0 else 1)

def grep : Tool := grepWith false false

def egrep : Tool := grepWith true false

def fgrep : Tool := grepWith false true

/-- The tools of this module by their names. -/
def searchTools : List (String × Tool) :=
  [("egrep", egrep),
   ("fgrep", fgrep),
   ("grep", grep)]

end Testbed.Rehearsal.Machine.Tool
