import Testbed.Rehearsal.Machine.Printf
import Testbed.Rehearsal.Machine.Tool.Act
/-!
# Tools that read

Programs that hand on what they read, all of it or some, or count it.
-/
namespace Testbed.Rehearsal.Machine.Tool

open Act

/-! ## All of it -/

/-- Hands a stream on, as it comes. -/
def copyStream (shown : String) (sinks : List Nat) : Nat → Nat → Act Unit
  | 0, _ => return ()
  | fuel + 1, fd => do
    match ← sys (.read fd 65536) with
    | .ok [] => return ()
    | .ok text =>
      for sink in sinks do put sink text
      copyStream shown sinks fuel fd
    | .error e => trouble s!"{shown}: {e.words.1}"

/-- How `cat` changes lines. -/
structure Dressing where
  number : Bool := false
  numberFilled : Bool := false
  squeeze : Bool := false
  ends : Bool := false
  tabs : Bool := false
  visible : Bool := false

/-- A byte in a form that can be seen. -/
def visibleForm (d : Dressing) (c : Char) : List Char :=
  if c = '\t' then if d.tabs then ['^', 'I'] else [c]
  else if c = '\n' then [c]
  else if !d.visible then [c]
  else
    let low (n : Nat) : List Char :=
      if n < 32 then ['^', Char.ofNat (n + 64)] else if n = 127 then ['^', '?'] else [Char.ofNat n]
    if 128 ≤ c.toNat then 'M' :: '-' :: low (c.toNat - 128) else low c.toNat

/-- A text in a field of some width, to the right. -/
def toRight (width : Nat) (text : String) : String :=
  String.ofList (List.replicate (width - text.length) ' ') ++ text

/-- Changes whole lines. `count` lines have been numbered, and `blank` ones in a row are above. -/
def dress (d : Dressing) : List (List Char) → Nat → Nat → List Char × Nat × Nat
  | [], count, blank => ([], count, blank)
  | line :: rest, count, blank =>
    let isBlank := line = ['\n']
    if d.squeeze && isBlank && 1 ≤ blank then dress d rest count (blank + 1)
    else
      let numbered := if d.numberFilled then !isBlank else d.number
      let count := if numbered then count + 1 else count
      let front := if numbered then (toRight 6 (Text.decimal count)).toList ++ ['\t'] else []
      let ended := line.getLast? = some '\n'
      let body := (if ended then line.dropLast else line).flatMap (visibleForm d)
      let behind := if ended then (if d.ends then ['$', '\n'] else ['\n']) else []
      let (more, count, blank) := dress d rest count (if isBlank then blank + 1 else 0)
      (front ++ body ++ behind ++ more, count, blank)

def catGrammar : Grammar where
  kinds := [⟨'A', "show-all", .nothing⟩, ⟨'b', "number-nonblank", .nothing⟩, ⟨'e', "", .nothing⟩,
    ⟨'E', "show-ends", .nothing⟩, ⟨'n', "number", .nothing⟩, ⟨'s', "squeeze-blank", .nothing⟩,
    ⟨'t', "", .nothing⟩, ⟨'T', "show-tabs", .nothing⟩, ⟨'u', "", .nothing⟩,
    ⟨'v', "show-nonprinting", .nothing⟩]

def cat : Tool := fun arguments => do
  let (chosen, files) ← catGrammar.all arguments
  let any (letters : List Char) : Bool := letters.any chosen.has
  let d : Dressing :=
    { number := chosen.has 'n', numberFilled := chosen.has 'b', squeeze := chosen.has 's'
      ends := any ['A', 'e', 'E'], tabs := any ['A', 't', 'T']
      visible := any ['A', 'e', 't', 'v'] }
  let plain := !(any ['A', 'b', 'e', 'E', 'n', 's', 't', 'T', 'v'])
  let out ← sys (.statusOf 1)
  match out with
  | .error e => fail s!"standard output: {e.words.1}"
  | .ok _ => pure ()
  let mut count := 0
  let mut blank := 0
  for path in inputsOf files do
    let opened ← if path = "-" then pure (.ok 0) else sys (.open path .read)
    match opened with
    | .error e => trouble s!"{shownName path}: {e.words.1}"
    | .ok fd =>
      let same : Bool := match out, ← sys (.statusOf fd) with
        | .ok a, .ok b => a.identity = b.identity && a.kind = .file && 0 < b.size
        | _, _ => false
      if same then trouble s!"{shownName path}: input file is output file"
      else if plain then copyStream (shownName path) [1] streamFuel fd
      else
        match ← readStream streamFuel fd #[] with
        | .error e => trouble s!"{shownName path}: {e.words.1}"
        | .ok text =>
          let (text, n, b) := dress d (wholeLines text) count blank
          count := n
          blank := b
          put 1 text
      unless fd = 0 do
        let _ ← sys (.close fd)

def tee : Tool := fun arguments => do
  let (chosen, files) ← ({ kinds := [⟨'a', "append", .nothing⟩,
    ⟨'i', "ignore-interrupts", .nothing⟩, ⟨'p', "", .nothing⟩] } : Grammar).all arguments
  let way : Opening := if chosen.has 'a' then .append else .write
  let mut sinks := [1]
  for path in files do
    match ← sys (.open path way) with
    | .ok fd => sinks := sinks ++ [fd]
    | .error e => trouble s!"{shownName path}: {e.words.1}"
  copyStream "read error" sinks streamFuel 0

/-! ## Some of it -/

/-- How much is meant: lines or bytes, counted from the end that is usual or from the other one. -/
structure Amount where
  count : Nat
  bytes : Bool := false
  otherEnd : Bool := false

/-- A number with a unit. -/
def sized? (text : List Char) : Option Nat :=
  let digits := text.takeWhile Char.isDigit
  (Text.digits? digits).bind fun n =>
    let unit? : Option Nat := match String.ofList (text.drop digits.length) with
      | "" => some 1
      | "b" => some 512
      | "kB" => some 1000
      | "K" => some 1024
      | "k" => some 1024
      | "KiB" => some 1024
      | "MB" => some 1000000
      | "M" => some 1048576
      | "m" => some 1048576
      | "MiB" => some 1048576
      | "GB" => some 1000000000
      | "G" => some 1073741824
      | _ => none
    unit?.map (n * ·)

/-- The parts of a text up to some lines. -/
def splitLines (n : Nat) (text : List Char) : List Char × List Char :=
  let (front, behind) := go text n #[]
  (front.toList, behind)
where
  go : List Char → Nat → Array Char → Array Char × List Char
    | rest, 0, done => (done, rest)
    | [], _, done => (done, [])
    | c :: rest, n + 1, done => go rest (if c = '\n' then n else n + 1) (done.push c)

/-- The first lines or bytes. -/
def firstPart (a : Amount) (text : List Char) : List Char :=
  if a.bytes then text.take (if a.otherEnd then text.length - a.count else a.count)
  else if a.otherEnd then
    let lines := wholeLines text
    (lines.take (lines.length - a.count)).flatten
  else (splitLines a.count text).1

/-- The last lines or bytes, or all from a line or byte on. -/
def lastPart (a : Amount) (text : List Char) : List Char :=
  if a.bytes then text.drop (if a.otherEnd then a.count - 1 else text.length - a.count)
  else
    let lines := wholeLines text
    (lines.drop (if a.otherEnd then a.count - 1 else lines.length - a.count)).flatten

/-- The amount that an argument gives. `mark` is the sign of the other end. -/
def amountOf (mark : Char) (bytes : Bool) (text : String) : Act Amount := do
  let (sign, digits) : Option Char × List Char := match text.toList with
    | '-' :: rest => (some '-', rest)
    | '+' :: rest => (some '+', rest)
    | rest => (none, rest)
  match sized? digits with
  | some count => return { count, bytes, otherEnd := sign = some mark }
  | none =>
    let what := if bytes then "bytes" else "lines"
    fail s!"invalid number of {what}: {inQuotes text}"

/-- The numbers that may stand for a count of lines in front of all other arguments. -/
def oldCount (arguments : List String) : List String :=
  match arguments with
  | first :: rest =>
    match first.toList with
    | '-' :: c :: digits =>
      if c.isDigit then
        let row := (c :: digits).takeWhile Char.isDigit
        let letters := (c :: digits).drop row.length
        let bytes := letters.contains 'c'
        let others := letters.filter fun c => c ≠ 'c' && c ≠ 'l' && c ≠ 'n'
        let more := if others.isEmpty then [] else [String.ofList ('-' :: others)]
        (if bytes then "-c" else "-n") :: String.ofList row :: more ++ rest
      else arguments
    | _ => arguments
  | [] => []

def partGrammar : Grammar where
  kinds := [⟨'c', "bytes", .argument⟩, ⟨'n', "lines", .argument⟩, ⟨'q', "quiet", .nothing⟩,
    ⟨'q', "silent", .nothing⟩, ⟨'v', "verbose", .nothing⟩, ⟨'z', "zero-terminated", .nothing⟩,
    ⟨'f', "", .nothing⟩, ⟨'F', "", .nothing⟩]

/-- Says parts of files, each under its name if there are several. -/
def sayParts (chosen : Chosen) (files : List String) (part : Nat → Act (Except OsError Unit))
    (noFile : String → String → String) : Act Unit := do
  let headed := match chosen.lastOf ['q', 'v'] with
    | some 'q' => false
    | some _ => true
    | none => 1 < files.length
  let mut first := true
  for path in inputsOf files do
    let opened ← if path = "-" then pure (.ok 0) else sys (.open path .read)
    match opened with
    | .error e => trouble (noFile (inQuotes path) e.words.1)
    | .ok fd =>
      if headed then
        let title := if path = "-" then "standard input" else path
        say ((if first then "" else "\n") ++ s!"==> {title} <==\n")
        first := false
      match ← part fd with
      | .ok _ => pure ()
      | .error e =>
        let shown := if path = "-" then "'standard input'" else inQuotes path
        trouble s!"error reading {shown}: {e.words.1}"
      unless fd = 0 do
        let _ ← sys (.close fd)

/-- Reads lines until there are enough, hands them on and gives back what was read too far. -/
def headLines : Nat → Nat → Nat → Act (Except OsError Unit)
  | 0, _, _ => return .ok ()
  | _, _, 0 => return .ok ()
  | fuel + 1, fd, n => do
    match ← sys (.read fd 1024) with
    | .error e => return .error e
    | .ok [] => return .ok ()
    | .ok text =>
      let (front, behind) := splitLines n text
      put 1 front
      let found := front.count '\n'
      if found < n then headLines fuel fd (n - found)
      else
        sys (.unread fd behind.length)
        return .ok ()

/-- Hands on some bytes. -/
def headBytes : Nat → Nat → Nat → Act (Except OsError Unit)
  | 0, _, _ => return .ok ()
  | _, _, 0 => return .ok ()
  | fuel + 1, fd, n => do
    match ← sys (.read fd (min n 65536)) with
    | .error e => return .error e
    | .ok [] => return .ok ()
    | .ok text =>
      put 1 text
      headBytes fuel fd (n - text.length)

def head : Tool := fun arguments => do
  let (chosen, files) ← partGrammar.all (oldCount arguments)
  let amount ← match chosen.lastOf ['c', 'n'] with
    | some 'c' => amountOf '-' true ((chosen.text? 'c').getD "")
    | some _ => amountOf '-' false ((chosen.text? 'n').getD "")
    | none => pure { count := 10 }
  let part (fd : Nat) : Act (Except OsError Unit) := do
    if amount.otherEnd then
      match ← readStream streamFuel fd #[] with
      | .error e => return .error e
      | .ok text =>
        put 1 (firstPart amount text)
        return .ok ()
    else if amount.bytes then headBytes streamFuel fd amount.count
    else headLines streamFuel fd amount.count
  sayParts chosen files part fun path words => s!"cannot open {path} for reading: {words}"

def tail : Tool := fun arguments => do
  let plus := match arguments with
    | first :: rest =>
      match first.toList with
      | '+' :: digits => if digits.all Char.isDigit && !digits.isEmpty then "-n" :: first :: rest
          else arguments
      | _ => arguments
    | [] => []
  let (chosen, files) ← partGrammar.all (oldCount plus)
  let amount ← match chosen.lastOf ['c', 'n'] with
    | some 'c' => amountOf '+' true ((chosen.text? 'c').getD "")
    | some _ => amountOf '+' false ((chosen.text? 'n').getD "")
    | none => pure { count := 10 }
  let part (fd : Nat) : Act (Except OsError Unit) := do
    match ← readStream streamFuel fd #[] with
    | .error e => return .error e
    | .ok text =>
      put 1 (lastPart amount text)
      return .ok ()
  sayParts chosen files part fun path words => s!"cannot open {path} for reading: {words}"
  if chosen.has 'f' || chosen.has 'F' then sys (.sleep (Nat.pow 10 18))

/-! ## How much of it -/

/-- What is counted in a text. -/
structure Tally where
  lines : Nat := 0
  words : Nat := 0
  bytes : Nat := 0
  /-- The width of the longest line. -/
  widest : Nat := 0

def Tally.add (a b : Tally) : Tally :=
  ⟨a.lines + b.lines, a.words + b.words, a.bytes + b.bytes, max a.widest b.widest⟩

/-- Counts in a text. -/
def tally (text : List Char) : Tally :=
  let start : Tally × Bool × Nat := ({}, false, 0)
  let (t, inWord, width) := text.foldl (fun (t, inWord, width) c =>
    let t := { t with bytes := t.bytes + 1, lines := if c = '\n' then t.lines + 1 else t.lines }
    let isSpace := c = ' ' || ('\t' ≤ c && c ≤ '\r')
    let printable := ' ' ≤ c && c ≤ '~'
    let t := if isSpace && inWord then { t with words := t.words + 1 } else t
    let inWord := if isSpace then false else inWord || printable
    let ends := c = '\n' || c = '\r' || c = '\x0c'
    let t := if ends then { t with widest := max t.widest width } else t
    let width := if ends then 0 else if c = '\t' then width / 8 * 8 + 8
      else if printable then width + 1 else width
    (t, inWord, width)) start
  { t with
    words := if inWord then t.words + 1 else t.words
    widest := max t.widest width }

def wcGrammar : Grammar where
  kinds := [⟨'c', "bytes", .nothing⟩, ⟨'m', "chars", .nothing⟩, ⟨'l', "lines", .nothing⟩,
    ⟨'w', "words", .nothing⟩, ⟨'L', "max-line-length", .nothing⟩]

/-- How wide the numbers of a count are, by the sizes of what is counted. -/
def countWidth (single : Bool) (found : List (Option Status)) : Nat :=
  let known := found.filterMap id
  if single || found.head? = some none then 1
  else
    let total := (known.filter (·.kind = .file)).foldl (fun n s => n + s.size) 0
    let least := if known.all (·.kind = .file) then 1 else 7
    max least (Text.decimal total).length

def wc : Tool := fun arguments => do
  let (chosen, files) ← wcGrammar.all arguments
  let chosen : Chosen := if chosen.isEmpty then [('l', ""), ('w', ""), ('c', "")] else chosen
  let kinds := ['l', 'w', 'm', 'c', 'L'].filter chosen.has
  let inputs := inputsOf files
  let mut found : List (Option Status) := []
  for path in inputs do
    let s ← if path = "-" then sys (.statusOf 0) else sys (.status path)
    found := found ++ [s.toOption]
  let width := countWidth (inputs.length = 1 && kinds.length = 1) found
  let row (t : Tally) : String :=
    Text.join " " (kinds.map fun c => toRight width (Text.decimal (match c with
      | 'l' => t.lines
      | 'w' => t.words
      | 'L' => t.widest
      | _ => t.bytes)))
  let mut total : Tally := {}
  for path in inputs do
    let name := if files.isEmpty then "" else s!" {shownName path}"
    match ← contentOf path with
    | .ok text =>
      let t := tally text
      total := total.add t
      say s!"{row t}{name}\n"
    | .error e =>
      trouble s!"{shownName path}: {e.words.1}"
      if e = .isADirectory then say s!"{row {}}{name}\n"
  if 1 < inputs.length then say s!"{row total} total\n"

/-! ## In another form -/

/-- Does something to the content of each file, and says the result. -/
def eachContent (files : List String) (shown : String → OsError → String)
    (change : List Char → Act Unit) : Act Unit := do
  for path in inputsOf files do
    match ← contentOf path with
    | .ok text => change text
    | .error e => trouble (shown path e)

def plainShown (path : String) (e : OsError) : String := s!"{shownName path}: {e.words.1}"

def tac : Tool := fun arguments => do
  let (_, files) ← ({ kinds := [⟨'b', "before", .nothing⟩] } : Grammar).all arguments
  let shown (path : String) (e : OsError) : String :=
    if e = .isADirectory then s!"{shownName path}: read error: {e.words.1}"
    else s!"failed to open {inQuotes path} for reading: {e.words.1}"
  eachContent files shown fun text => put 1 (wholeLines text).reverse.flatten

def rev : Tool := fun arguments => do
  let (_, files) ← ({ kinds := [] } : Grammar).all arguments
  let shown (path : String) (e : OsError) : String := s!"cannot open {path}: {e.words.1}"
  eachContent files shown fun text => put 1 ((wholeLines text).flatMap fun line =>
    if line.getLast? = some '\n' then line.dropLast.reverse ++ ['\n'] else line.reverse)

/-- Numbers the lines that are not empty. -/
def nl : Tool := fun arguments => do
  let g : Grammar := { kinds := [
    ⟨'b', "body-numbering", .argument⟩, ⟨'s', "number-separator", .argument⟩,
    ⟨'w', "number-width", .argument⟩, ⟨'v', "starting-line-number", .argument⟩,
    ⟨'i', "line-increment", .argument⟩, ⟨'n', "number-format", .argument⟩] }
  let (chosen, files) ← g.all arguments
  let every := chosen.text? 'b' = some "a"
  let none_ := chosen.text? 'b' = some "n"
  let number (letter : Char) (usual : Nat) : Nat :=
    ((chosen.text? letter).bind fun text => Text.digits? text.toList).getD usual
  let width := number 'w' 6
  let separator := (chosen.text? 's').getD "\t"
  let mut n := number 'v' 1
  for path in inputsOf files do
    match ← contentOf path with
    | .error e => trouble (plainShown path e)
    | .ok text =>
      for line in (linesOf text).1 do
        if !none_ && (every || !line.isEmpty) then
          let digits := Text.decimal n
          let shown := match chosen.text? 'n' with
            | some "ln" => digits ++ String.ofList (List.replicate (width - digits.length) ' ')
            | some "rz" => String.ofList (List.replicate (width - digits.length) '0') ++ digits
            | _ => toRight width digits
          say (shown ++ separator)
          n := n + number 'i' 1
        else say (String.ofList (List.replicate (width + separator.length) ' '))
        put 1 (line ++ ['\n'])

/-- The pieces of a line that are no wider than `width`. -/
def folded (width : Nat) (atBlanks : Bool) : Nat → List Char → List (List Char)
  | 0, line => [line]
  | fuel + 1, line =>
    if line.length ≤ width then [line]
    else
      let front := line.take width
      let kept := (front.reverse.dropWhile (· ≠ ' ')).length
      let n := if atBlanks && 0 < kept then kept else max 1 width
      line.take n :: folded width atBlanks fuel (line.drop n)

def fold : Tool := fun arguments => do
  let g : Grammar := { kinds := [⟨'w', "width", .argument⟩, ⟨'s', "spaces", .nothing⟩,
    ⟨'b', "bytes", .nothing⟩] }
  let (chosen, files) ← g.all (match arguments with
    | first :: rest =>
      match first.toList with
      | '-' :: c :: digits => if c.isDigit then "-w" :: String.ofList (c :: digits) :: rest
          else arguments
      | _ => arguments
    | [] => [])
  let text := (chosen.text? 'w').getD "80"
  let width ← match Text.digits? text.toList with
    | some n => if n = 0 then fail s!"invalid number of columns: {inQuotes text}" else pure n
    | none => fail s!"invalid number of columns: {inQuotes text}"
  eachContent files plainShown fun text => do
    let (lines, ended) := linesOf text
    let pieces := lines.map fun line =>
      Text.joinBy ['\n'] (folded width (chosen.has 's') (line.length + 1) line)
    put 1 (Text.joinBy ['\n'] pieces ++ if ended && !lines.isEmpty then ['\n'] else [])

/-- The tools of this module by their names. -/
def readingTools : List (String × Tool) :=
  [("cat", cat),
   ("fold", fold),
   ("head", head),
   ("nl", nl),
   ("rev", rev),
   ("tac", tac),
   ("tail", tail),
   ("tee", tee),
   ("wc", wc)]

end Testbed.Rehearsal.Machine.Tool
