import Testbed.Rehearsal.Machine.Tool.Reading
/-!
# Parts of lines

Programs that take lines apart, put them together, or change one character for another.
-/
namespace Testbed.Rehearsal.Machine.Tool

open Act

/-! ## Parts of a line -/

/-- A range of positions, counted from one; without an end it goes on. -/
abbrev Range := Nat × Option Nat

def inRanges (ranges : List Range) (n : Nat) : Bool :=
  ranges.any fun r => r.1 ≤ n && r.2.all (n ≤ ·)

/-- The ranges of a list such as `1,3-5,7-`. -/
def rangesOf (byFields : Bool) (text : String) : Act (List Range) :=
  let (what, value, range) :=
    if byFields then ("field", "field value", "field range")
    else ("byte/character position", "byte/character position", "byte or character range")
  (Text.cutAt ',' text.toList).mapM fun part => do
    let low := part.takeWhile Char.isDigit
    let rest := part.drop low.length
    let shown := String.ofList part
    let number (digits : List Char) : Act Nat := do
      match Text.digits? digits with
      | some 0 => misuse s!"{what}s are numbered from 1"
      | some n => return n
      | none => misuse s!"invalid {range}"
    match low, rest with
    | [], [] => misuse s!"{what}s are numbered from 1"
    | [], ['-'] => misuse s!"invalid range with no endpoint: -"
    | [], '-' :: digits =>
      let n ← number digits
      return (1, some n)
    | digits, [] =>
      let n ← number digits
      return (n, some n)
    | digits, ['-'] =>
      let n ← number digits
      return (n, none)
    | digits, '-' :: last =>
      if !last.all Char.isDigit then misuse s!"invalid {value} {inQuotes shown}"
      let n ← number digits
      let m ← number last
      if m < n then misuse "invalid decreasing range"
      return (n, some m)
    | _, _ =>
      let bad := String.ofList rest
      misuse s!"invalid {value} {inQuotes bad}"

def cutGrammar : Grammar where
  kinds := [⟨'b', "bytes", .argument⟩, ⟨'c', "characters", .argument⟩, ⟨'f', "fields", .argument⟩,
    ⟨'d', "delimiter", .argument⟩, ⟨'s', "only-delimited", .nothing⟩, ⟨'n', "", .nothing⟩,
    ⟨'\x01', "complement", .nothing⟩, ⟨'\x02', "output-delimiter", .argument⟩,
    ⟨'z', "zero-terminated", .nothing⟩]

def cut : Tool := fun arguments => do
  let (chosen, files) ← cutGrammar.all arguments
  let lists := chosen.filter fun c => ['b', 'c', 'f'].contains c.1
  if 1 < lists.length then misuse "only one list may be specified"
  match lists with
  | [] => misuse "you must specify a list of bytes, characters, or fields"
  | (kind, text) :: _ =>
    let byFields := kind = 'f'
    if chosen.has 'd' && !byFields then
      misuse "an input delimiter may be specified only when operating on fields"
    if chosen.has 's' && !byFields then
      misuse "suppressing non-delimited lines makes sense\n\tonly when operating on fields"
    let delimiter ← match chosen.text? 'd' with
      | none => pure '\t'
      | some text =>
        match text.toList with
        | [c] => pure c
        | [] => pure '\x00'
        | _ => misuse "the delimiter must be a single character"
    let ranges ← rangesOf byFields text
    let wanted (n : Nat) : Bool := inRanges ranges n ≠ chosen.has '\x01'
    let between := ((chosen.text? '\x02').getD delimiter.toString).toList
    let mark := if chosen.has 'z' then '\x00' else '\n'
    eachContent files plainShown fun text => do
      let lines := (linesOf text mark).1
      put 1 (lines.flatMap fun line =>
        if byFields then
          let fields := Text.cutAt delimiter line
          if fields.length = 1 then if chosen.has 's' then [] else line ++ [mark]
          else
            let kept := (fields.zip (List.range fields.length)).filterMap fun (f, n) =>
              if wanted (n + 1) then some f else none
            Text.joinBy between kept ++ [mark]
        else
          let kept := (line.zip (List.range line.length)).filter fun (_, n) => wanted (n + 1)
          if chosen.has '\x02' then
            -- ranges that do not touch are kept apart
            let (text, _) := kept.foldl (fun (text, last) (c, n) =>
              match last with
              | some m => (if m + 1 < n then text ++ between ++ [c] else text ++ [c], some n)
              | none => ([c], some n)) (([] : List Char), (none : Option Nat))
            text ++ [mark]
          else kept.map (·.1) ++ [mark])

/-! ## Lines side by side -/

/-- The characters of a list of separators. -/
def separatorsOf : List Char → List (List Char)
  | [] => []
  | '\\' :: c :: rest =>
    (match c with
      | 'n' => ['\n']
      | 't' => ['\t']
      | '0' => []
      | c => [c]) :: separatorsOf rest
  | c :: rest => [c] :: separatorsOf rest

/-- Joins texts with separators in turn. -/
def joinInTurn (separators : List (List Char)) : Nat → List (List Char) → List Char
  | _, [] => []
  | _, [text] => text
  | n, text :: rest =>
    text ++ (separators[n % separators.length]?).getD [] ++ joinInTurn separators (n + 1) rest

def paste : Tool := fun arguments => do
  let g : Grammar := { kinds := [⟨'d', "delimiters", .argument⟩, ⟨'s', "serial", .nothing⟩,
    ⟨'z', "zero-terminated", .nothing⟩] }
  let (chosen, files) ← g.all arguments
  let separators := separatorsOf ((chosen.text? 'd').getD "\t").toList
  let separators := if separators.isEmpty then [[]] else separators
  let mut columns : List (List (List Char)) := []
  let mut standard : Option (List (List Char)) := none
  for path in inputsOf files do
    match ← contentOf path with
    | .ok text =>
      columns := columns ++ [(linesOf text).1]
      if path = "-" && standard.isNone then standard := some (linesOf text).1
    | .error e =>
      if chosen.has 's' then trouble s!"{shownName path}: {e.words.1}"
      else fail s!"{shownName path}: {e.words.1}"
  if chosen.has 's' then
    for lines in columns do put 1 (joinInTurn separators 0 lines ++ ['\n'])
  else
    -- standard input that is named several times gives its lines in turn
    let times := (inputsOf files).count "-"
    let shared := standard.getD []
    let places := (inputsOf files).zip (List.range files.length.succ)
    let turn (n : Nat) : Nat := ((inputsOf files).take n).count "-"
    let sides := (columns.zip places).map fun (lines, path, n) =>
      if path = "-" && 1 < times then
        (shared.zip (List.range shared.length)).filterMap fun (line, k) =>
          if k % times = turn n then some line else none
      else lines
    let height := (sides.map List.length).foldl max 0
    for n in List.range height do
      put 1 (joinInTurn separators 0 (sides.map fun lines => (lines[n]?).getD []) ++ ['\n'])

/-! ## Characters -/

/-- A part of a set of characters as `tr` has it. -/
inductive TrPart
  | chars (cs : List Char)
  /-- A class, whose letters may stand for those in the other case. -/
  | named (name : String) (cs : List Char)
  | repeated (c : Char) (count : Nat)

def byteChars : List Char := (List.range 256).map Char.ofNat

/-- Reads a character of a set, which a backslash may write. -/
def trChar : List Char → Option (Char × List Char)
  | [] => none
  | '\\' :: rest =>
    match rest with
    | [] => some ('\\', [])
    | c :: more =>
      let octal := (rest.takeWhile Printf.isOctal).take 3
      if !octal.isEmpty then
        let octal := if 255 < Printf.octalValue octal then octal.take 2 else octal
        some (Printf.byteOf (Printf.octalValue octal), rest.drop octal.length)
      else some ((Printf.letterEscape? c).getD c, more)
  | c :: rest => some (c, rest)

/-- Reads a set. -/
def trParts : Nat → List Char → Act (List TrPart)
  | 0, _ => return []
  | fuel + 1, cs => do
    let usual : Act (List TrPart) := do
      match trChar cs with
      | none => return []
      | some (c, '-' :: d :: rest) =>
        match trChar (d :: rest) with
        | some (last, rest) =>
          if last < c then
            let shown := s!"{c}-{last}"
            fail s!"range-endpoints of {inQuotes shown} are in reverse collating sequence order"
          let row := byteChars.filter fun x => c ≤ x && x ≤ last
          return .chars row :: (← trParts fuel rest)
        | none => return [.chars [c]]
      | some (c, rest) => return .chars [c] :: (← trParts fuel rest)
    match cs with
    | '[' :: ':' :: rest =>
      let name := rest.takeWhile (· ≠ ':')
      match rest.drop name.length with
      | ':' :: ']' :: behind =>
        let name := String.ofList name
        match Text.CharSet.ofClass? name with
        | some set => return .named name (byteChars.filter set.holds) :: (← trParts fuel behind)
        | none => fail s!"invalid character class {inQuotes name}"
      | _ => usual
    | '[' :: '=' :: c :: '=' :: ']' :: rest => return .chars [c] :: (← trParts fuel rest)
    | '[' :: rest =>
      match trChar rest with
      | some (c, '*' :: more) =>
        let digits := more.takeWhile Char.isDigit
        match more.drop digits.length with
        | ']' :: behind =>
          let n := if digits.head? = some '0' then Printf.octalValue digits
            else (Text.digits? digits).getD 0
          return .repeated c n :: (← trParts fuel behind)
        | _ => usual
      | _ => usual
    | _ => usual

/-- The characters of a set; a repetition without a count makes it as long as `length`. -/
def trChars (parts : List TrPart) (length : Nat) : List Char :=
  let fixed := parts.foldl (fun fixed p =>
    match p with
    | .chars cs => fixed + cs.length
    | .named _ cs => fixed + cs.length
    | .repeated _ n => fixed + n) 0
  parts.flatMap fun p =>
    match p with
    | .chars cs => cs
    | .named _ cs => cs
    | .repeated c 0 => List.replicate (length - fixed) c
    | .repeated c n => List.replicate n c

def trGrammar : Grammar where
  kinds := [⟨'c', "complement", .nothing⟩, ⟨'C', "", .nothing⟩, ⟨'d', "delete", .nothing⟩,
    ⟨'s', "squeeze-repeats", .nothing⟩, ⟨'t', "truncate-set1", .nothing⟩]
  anywhere := false

/-- Hands a stream on as `change` makes it, which keeps a state. -/
def changeStream {σ : Type} (change : σ → List Char → List Char × σ) : Nat → σ → Act Unit
  | 0, _ => return ()
  | fuel + 1, state => do
    match ← sys (.read 0 65536) with
    | .ok [] => return ()
    | .ok text =>
      let (out, state) := change state text
      put 1 out
      changeStream change fuel state
    | .error e => fail s!"read error: {e.words.1}"

/-- Leaves out characters of a set that repeat the one before. -/
def squeeze (set : List Char) (last : Option Char) (text : List Char) :
    List Char × Option Char :=
  let (out, last) := text.foldl (fun (out, last) c =>
    if last = some c && set.contains c then (out, last) else (c :: out, some c))
    (([] : List Char), last)
  (out.reverse, last)

def tr : Tool := fun arguments => do
  let (chosen, operands) ← trGrammar.all arguments
  let complement := chosen.has 'c' || chosen.has 'C'
  let (deletes, squeezes) := (chosen.has 'd', chosen.has 's')
  let least := if deletes = squeezes then 2 else 1
  let most := if deletes && !squeezes then 1 else 2
  let hint (text : String) : Act Unit := do
    let _ ← sys (.write 2 text.toList)
  let tryHelp : Act Unit := do hint s!"Try '{← name} --help' for more information.\n"
  match operands with
  | [] => misuse "missing operand"
  | _ => pure ()
  if operands.length < least then
    complain (s!"missing operand after " ++ inQuotes (operands.getLast?.getD ""))
    hint (if squeezes then "Two strings must be given when both deleting and squeezing repeats.\n"
      else "Two strings must be given when translating.\n")
    tryHelp
    quit 1
  if most < operands.length then
    complain ("extra operand " ++ inQuotes (operands[most]?.getD ""))
    if most = 1 then hint "Only one string may be given when deleting without squeezing repeats.\n"
    tryHelp
    quit 1
  let parts1 ← trParts 10000 ((operands[0]?).getD "").toList
  let parts2 ← trParts 10000 ((operands[1]?).getD "").toList
  let set1 := trChars parts1 0
  let set1 := if complement then byteChars.filter (!set1.contains ·) else set1
  if deletes then
    let set2 := trChars parts2 0
    changeStream (fun last text =>
      let kept := text.filter (!set1.contains ·)
      if squeezes then squeeze set2 last kept else (kept, last)) streamFuel (none : Option Char)
  else if operands.length = 1 then
    changeStream (fun last text => squeeze set1 last text) streamFuel (none : Option Char)
  else
    let set2 := trChars parts2 set1.length
    if set2.isEmpty && !chosen.has 't' && !set1.isEmpty then
      fail "when not truncating set1, string2 must be non-empty"
    let set1 := if chosen.has 't' then set1.take set2.length else set1
    let last := set2.getLast?.getD ' '
    let table := set1.zip (set2 ++ List.replicate (set1.length - set2.length) last)
    -- the last of several places of a character counts
    let table := table.reverse
    let whole := byteChars.map fun c => (table.lookup c).getD c
    let array := whole.toArray
    let change (c : Char) : Char := (array[c.toNat]?).getD c
    changeStream (fun last text =>
      let out := text.map change
      if squeezes then squeeze set2 last out else (out, last)) streamFuel (none : Option Char)

/-! ## Tabs -/

def expand : Tool := fun arguments => do
  let g : Grammar := { kinds := [⟨'t', "tabs", .argument⟩, ⟨'i', "initial", .nothing⟩] }
  let (chosen, files) ← g.all arguments
  let width := ((chosen.text? 't').bind fun text => Text.digits? text.toList).getD 8
  eachContent files plainShown fun text => do
    let (out, _) := text.foldl (fun (out, column) c =>
      if c = '\t' then
        let n := width - column % width
        (List.replicate n ' ' ++ out, column + n)
      else (c :: out, if c = '\n' then 0 else column + 1)) (([] : List Char), 0)
    put 1 out.reverse

/-- The tools of this module by their names. -/
def fieldTools : List (String × Tool) :=
  [("cut", cut), ("expand", expand), ("paste", paste), ("tr", tr)]

end Testbed.Rehearsal.Machine.Tool
