import Testbed.Rehearsal.Machine.Glob
import Testbed.Rehearsal.Machine.Tool.Places
/-!
# Tools that list

Programs that tell what there is in directories, and what is known of files.
-/
namespace Testbed.Rehearsal.Machine.Tool

open Act

/-! ## What is listed -/

/-- What a line of a list is about. -/
structure Entry where
  /-- The name that is shown. -/
  name : String
  path : String
  status : Status

/-- What the names in a list look like. -/
inductive Wording
  | plain
  /-- What cannot be seen is written with a backslash, blanks too. -/
  | escaped
  | quoted
  /-- Each byte that cannot be seen is a question mark. -/
  | masked
  deriving DecidableEq, Repr

/-- How a list is laid out. -/
inductive Layout
  | lines
  | columns
  | across
  | commas
  | long
  deriving DecidableEq, Repr

/-- What decides on the order of a list. -/
inductive Precedence
  | name
  | time
  | size
  | extension
  | version
  | none
  deriving DecidableEq, Repr

/-- How a list is made. -/
structure Manner where
  hidden : Bool := false
  /-- Whether the directory itself and the one above are listed too. -/
  points : Bool := false
  order : Precedence := .name
  reversed : Bool := false
  layout : Layout := .lines
  wording : Wording := .plain
  /-- Which kinds of things are marked behind their names: directories only, or all. -/
  marks : Option Bool := none
  blocks : Bool := false
  numbers : Bool := false
  owner : Bool := true
  group : Bool := true
  numeric : Bool := false
  deep : Bool := false
  asNames : Bool := false
  follow : Bool := false
  width : Nat := 80
  ignored : List String := []

/-! ## Precedence -/

/-- The parts of a name that are compared in turn: letters as they are, and numbers by value. -/
def versionKey : Nat → List Char → List (Nat × Nat)
  | 0, _ => []
  | _, [] => []
  | fuel + 1, c :: rest =>
    let digits := (c :: rest).takeWhile Char.isDigit
    if digits.isEmpty then
      let weight := if c = '~' then 0 else if c.isAlpha then c.toNat + 1 else c.toNat + 257
      (weight, 0) :: versionKey fuel rest
    else
      (1, (Text.digits? digits).getD 0) :: versionKey fuel ((c :: rest).drop digits.length)

def comparePairs : List (Nat × Nat) → List (Nat × Nat) → Ordering
  | [], [] => .eq
  | [], _ => .lt
  | _, [] => .gt
  | a :: as, b :: bs => (compare a.1 b.1).then ((compare a.2 b.2).then (comparePairs as bs))

def extensionOf (name : String) : String :=
  let cs := name.toList
  if cs.contains '.' then String.ofList (cs.reverse.takeWhile (· ≠ '.')).reverse else ""

/-- Which of two entries comes first. -/
def Precedence.compare (o : Precedence) (a b : Entry) : Ordering :=
  let byName := Ord.compare a.name b.name
  match o with
  | .name => byName
  | .time => (Ord.compare b.status.time a.status.time).then byName
  | .size => (Ord.compare b.status.size a.status.size).then byName
  | .extension => (Ord.compare (extensionOf a.name) (extensionOf b.name)).then byName
  | .version =>
    (comparePairs (versionKey 1000 a.name.toList) (versionKey 1000 b.name.toList)).then byName
  | .none => .eq

/-- The entries in order. -/
def Manner.sorted (m : Manner) (entries : List Entry) : List Entry :=
  let entries := entries.mergeSort fun a b => m.order.compare a b ≠ .gt
  if m.reversed then entries.reverse else entries

/-! ## Names -/

/-- A byte in a name as it is written with a backslash. -/
def escapedByte (blank : Bool) (c : Char) : List Char :=
  match c with
  | '\n' => ['\\', 'n']
  | '\t' => ['\\', 't']
  | '\r' => ['\\', 'r']
  | '\\' => ['\\', '\\']
  | ' ' => if blank then ['\\', ' '] else [' ']
  | '"' => if blank then ['"'] else ['\\', '"']
  | c =>
    if c < ' ' || 126 < c.toNat then '\\' :: (Mode.octal 3 c.toNat).toList else [c]

def Wording.show (w : Wording) (name : String) : String :=
  match w with
  | .plain => name
  | .escaped => String.ofList (name.toList.flatMap (escapedByte true))
  | .quoted => "\"" ++ String.ofList (name.toList.flatMap (escapedByte false)) ++ "\""
  | .masked => String.ofList (name.toList.map fun c => if c < ' ' || c = '\x7f' then '?' else c)

/-- The mark behind the name of a thing. -/
def Manner.mark (m : Manner) (s : Status) : String :=
  match m.marks with
  | none => ""
  | some every =>
    if s.kind = .directory then "/"
    else if !every then ""
    else if s.target.isSome then (if m.layout = .long then "" else "@")
    else if s.kind = .file && s.mode &&& 0o111 ≠ 0 then "*" else ""

/-- The size of a thing in blocks of a thousand bytes or so, of which four come together. -/
def blocksOf (s : Status) : Nat :=
  match s.kind with
  | .directory => 4
  | .file => (s.size + 4095) / 4096 * 4
  | _ => 0

/-- The number of a thing in the file system. -/
def inodeOf (s : Status) : Nat :=
  s.identity.toList.foldl (fun n c => (n * 31 + c.toNat) % 10000000) 7 + 1000

/-- The letter of a kind of things. -/
def kindLetter (s : Status) : Char :=
  if s.target.isSome then 'l'
  else match s.kind with
    | .directory => 'd'
    | .file => '-'
    | _ => 'c'

/-! ## Layout -/

/-- The least width of a column. -/
def narrowest : Nat := 3

/-- How wide each of some columns is, if names of these lengths stand in them, downwards or
across. -/
def columnWidths (across : Bool) (lengths : List Nat) (columns : Nat) : List Nat :=
  let rows := (lengths.length + columns - 1) / columns
  let placed := lengths.zipIdx.map fun (n, i) => (if across then i % columns else i / rows, n)
  (List.range columns).map fun column =>
    let widest := placed.foldl (fun w (c, n) => if c = column then max w n else w) 0
    max narrowest (widest + if column + 1 = columns then 0 else 2)

/-- The greatest number of columns that fit. -/
def fittingWidths (across : Bool) (lengths : List Nat) (width : Nat) : Nat → List Nat
  | 0 => [width]
  | 1 => [lengths.foldl max 0]
  | columns + 2 =>
    let widths := columnWidths across lengths (columns + 2)
    if widths.foldl (· + ·) 0 < width then widths
    else fittingWidths across lengths width (columns + 1)

/-- Blanks and tabs from one place of a line to another. -/
def gap : Nat → Nat → Nat → List Char
  | 0, _, _ => []
  | fuel + 1, here, goal =>
    if goal ≤ here then []
    else if (here + 1) / 8 < goal / 8 then '\t' :: gap fuel (here + 8 - here % 8) goal
    else ' ' :: gap fuel (here + 1) goal

/-- A row of names in columns. -/
def columnRow : List String → List Nat → Nat → List Char
  | [], _, _ => []
  | [name], _, _ => name.toList
  | name :: rest, widths, here =>
    let goal := here + widths.head?.getD 0
    name.toList ++ gap 1000 (here + name.length) goal ++ columnRow rest widths.tail goal

/-- Names in columns. -/
def inColumns (across : Bool) (width : Nat) (names : List String) : List Char :=
  let lengths := names.map String.length
  let widths := fittingWidths across lengths width (min names.length (max 1 (width / narrowest)))
  let columns := widths.length
  let rows := (names.length + columns - 1) / columns
  (List.range rows).flatMap fun row =>
    let indices := (List.range columns).map fun c =>
      if across then row * columns + c else c * rows + row
    columnRow (indices.filterMap (names[·]?)) widths 0 ++ ['\n']

/-- Names with commas between them, in lines. -/
def withCommas (width : Nat) : List String → Nat → Bool → List Char
  | [], _, _ => ['\n']
  | name :: rest, here, first =>
    let n := name.length
    if first then name.toList ++ withCommas width rest n false
    else if here + n + 2 < width then
      ',' :: ' ' :: name.toList ++ withCommas width rest (here + 2 + n) false
    else ',' :: '\n' :: name.toList ++ withCommas width rest n false

namespace Manner

/-- What is shown of a time. -/
def timeText (now : Int) (time : Int) : String :=
  let age := (now - time) / 1000000000
  let format := if age < -1 || 15778476 < age then "%b %e  %Y" else "%b %e %H:%M"
  dateText (worldTime time) 100 format.toList

/-- The name of an entry with all that stands around it. -/
def label (m : Manner) (e : Entry) : String :=
  m.wording.show e.name ++ m.mark e.status

/-- The lines of a long list. -/
def longLines (m : Manner) (now : Int) (entries : List Entry) : List String :=
  let widest (f : Entry → String) : Nat := entries.foldl (fun w e => max w (f e).length) 0
  let links (e : Entry) : String := Text.decimal e.status.links
  let size (e : Entry) : String := Text.decimal e.status.size
  let blocks (e : Entry) : String := Text.decimal (blocksOf e.status)
  let number (e : Entry) : String := Text.decimal (inodeOf e.status)
  let user := if m.numeric then "0 " else "root "
  entries.map fun e =>
    let front := (if m.numbers then toRight (widest number) (number e) ++ " " else "") ++
      (if m.blocks then toRight (widest blocks) (blocks e) ++ " " else "")
    let mode := (kindLetter e.status).toString ++ Mode.letters e.status.mode
    let who := (if m.owner then user else "") ++ (if m.group then user else "")
    let count := toRight (widest links) (links e)
    let amount := toRight (widest size) (size e)
    let behind := match e.status.target with
      | some text => " -> " ++ m.wording.show text
      | none => ""
    s!"{front}{mode} {count} {who}{amount} {timeText now e.status.time} {m.label e}{behind}\n"

/-- Says what there is. -/
def present (m : Manner) (entries : List Entry) : Act Unit := do
  let entries := m.sorted entries
  if entries.isEmpty then return ()
  let widest (f : Entry → Nat) : Nat :=
    entries.foldl (fun w e => max w (Text.decimal (f e)).length) 0
  let front (e : Entry) : String :=
    let right (f : Status → Nat) : String :=
      let wide := if m.layout = .commas then 0 else widest fun e => f e.status
      toRight wide (Text.decimal (f e.status)) ++ " "
    (if m.numbers then right inodeOf else "") ++ (if m.blocks then right blocksOf else "")
  let names := entries.map fun e => front e ++ m.label e
  match m.layout with
  | .long =>
    let now ← sys .now
    say (Text.join "" (m.longLines now entries))
  | .lines => say (Text.join "" (names.map (· ++ "\n")))
  | .commas => put 1 (withCommas m.width names 0 true)
  | .columns => put 1 (inColumns false m.width names)
  | .across => put 1 (inColumns true m.width names)

/-- The status of what a name in a list stands for. -/
def statusAt (m : Manner) (path : String) : Act (Except OsError Status) :=
  if m.follow then sys (.status path) else sys (.statusOfName path)

/-- Whether a name in a directory is left out. -/
def skips (m : Manner) (name : String) : Bool :=
  (name.toList.head? = some '.' && !m.hidden) ||
    m.ignored.any fun pattern => Glob.fitsName (pattern.toList.map (·, false)) name

/-- The entries of a directory. -/
def entries (m : Manner) (dir : String) (names : List String) : Act (List Entry) := do
  let names := (if m.points then [".", ".."] else []) ++ names.filter (!m.skips ·)
  let mut found : List Entry := []
  for name in names do
    let path := inside dir name
    match ← m.statusAt path with
    | .ok s => found := found ++ [⟨name, path, s⟩]
    | .error e =>
      let link ← sys (.statusOfName path)
      match link with
      | .ok s =>
        trouble s!"cannot access {inQuotes path}: {e.words.1}"
        found := found ++ [⟨name, path, s⟩]
      | .error _ => pure ()
  return found

/-- Lists directories, and those below them if that is asked for. `first` tells whether nothing was
said before, and `titled` whether each list has the name of its directory above it. -/
def directories (m : Manner) (titled : Bool) : Nat → (first : Bool) → List String → Act Unit
  | 0, _, _ => return ()
  | _, _, [] => return ()
  | fuel + 1, first, dir :: rest => do
    match ← sys (.list dir) with
    | .error e =>
      trouble s!"cannot open directory {inQuotes dir}: {e.words.1}" 2
      directories m titled fuel first rest
    | .ok names =>
      if titled then say ((if first then "" else "\n") ++ s!"{dir}:\n")
      let found ← m.entries dir names
      if m.layout = .long || m.blocks then
        let total := found.foldl (fun n e => n + blocksOf e.status) 0
        say s!"total {Text.decimal total}\n"
      m.present found
      let below := if m.deep then
          (m.sorted found).filterMap fun e =>
            if e.status.kind = .directory && e.name ≠ "." && e.name ≠ ".." then some e.path
            else none
        else []
      directories m titled fuel false (below ++ rest)

end Manner

def lsGrammar : Grammar where
  kinds := [⟨'a', "all", .nothing⟩, ⟨'A', "almost-all", .nothing⟩, ⟨'b', "escape", .nothing⟩,
    ⟨'B', "ignore-backups", .nothing⟩, ⟨'c', "", .nothing⟩, ⟨'C', "", .nothing⟩,
    ⟨'d', "directory", .nothing⟩, ⟨'f', "", .nothing⟩, ⟨'F', "classify", .maybe⟩,
    ⟨'g', "", .nothing⟩, ⟨'G', "no-group", .nothing⟩, ⟨'h', "human-readable", .nothing⟩,
    ⟨'H', "dereference-command-line", .nothing⟩, ⟨'i', "inode", .nothing⟩,
    ⟨'I', "ignore", .argument⟩, ⟨'k', "kibibytes", .nothing⟩, ⟨'l', "", .nothing⟩,
    ⟨'L', "dereference", .nothing⟩, ⟨'m', "", .nothing⟩, ⟨'n', "numeric-uid-gid", .nothing⟩,
    ⟨'N', "literal", .nothing⟩, ⟨'o', "", .nothing⟩, ⟨'p', "", .nothing⟩,
    ⟨'q', "hide-control-chars", .nothing⟩, ⟨'Q', "quote-name", .nothing⟩,
    ⟨'r', "reverse", .nothing⟩, ⟨'R', "recursive", .nothing⟩, ⟨'s', "size", .nothing⟩,
    ⟨'S', "", .nothing⟩, ⟨'t', "", .nothing⟩, ⟨'T', "tabsize", .argument⟩, ⟨'u', "", .nothing⟩,
    ⟨'U', "", .nothing⟩, ⟨'v', "", .nothing⟩, ⟨'w', "width", .argument⟩, ⟨'x', "", .nothing⟩,
    ⟨'X', "", .nothing⟩, ⟨'1', "", .nothing⟩, ⟨'$', "color", .maybe⟩,
    ⟨'/', "group-directories-first", .nothing⟩]
  status := 2

/-- The manner that options ask for. -/
def mannerOf (chosen : Chosen) : Manner :=
  let layoutLetters := ['l', 'n', 'g', 'o', '1', 'C', 'x', 'm']
  let long := chosen.lastOf layoutLetters
  { hidden := chosen.has 'a' || chosen.has 'A' || chosen.has 'f'
    points := chosen.lastOf ['a', 'A', 'f'] = some 'a' || chosen.lastOf ['a', 'A', 'f'] = some 'f'
    order := match chosen.lastOf ['t', 'S', 'X', 'v', 'U', 'f'] with
      | some 't' => .time
      | some 'S' => .size
      | some 'X' => .extension
      | some 'v' => .version
      | some _ => .none
      | none => if (chosen.has 'c' || chosen.has 'u') && !chosen.has 'l' then .time else .name
    reversed := chosen.has 'r'
    layout := match long with
      | some 'C' => .columns
      | some 'x' => .across
      | some 'm' => .commas
      | some '1' => if ['l', 'n', 'g', 'o'].any chosen.has then .long else .lines
      | some _ => .long
      | none => .lines
    wording := match chosen.lastOf ['b', 'Q', 'N'], chosen.has 'q' with
      | some 'b', _ => .escaped
      | some 'Q', _ => .quoted
      | _, true => .masked
      | _, false => .plain
    marks := match chosen.lastOf ['F', 'p'] with
      | some 'F' => some true
      | some _ => some false
      | none => none
    blocks := chosen.has 's', numbers := chosen.has 'i'
    owner := !chosen.has 'g', group := !(chosen.has 'o' || chosen.has 'G')
    numeric := chosen.has 'n', deep := chosen.has 'R', asNames := chosen.has 'd'
    follow := chosen.has 'L'
    width := ((chosen.text? 'w').bind fun text => Text.digits? text.toList).getD 80
    ignored := (chosen.filter (·.1 = 'I')).map (·.2) ++
      if chosen.has 'B' then ["*~", ".*~"] else [] }

def ls : Tool := fun arguments => do
  let (chosen, paths) ← lsGrammar.all arguments
  let m := mannerOf chosen
  let mut plain : List Entry := []
  let mut dirs : List Entry := []
  -- a link that is named is followed, unless it is shown as what it is
  let follows := m.follow || chosen.has 'H' ||
    !(m.asNames || m.layout = .long || chosen.has 'F')
  for path in (if paths.isEmpty then ["."] else paths) do
    let found ← if follows then do
        match ← sys (.status path) with
        | .ok s => pure (.ok s)
        | .error e =>
          if e = .notFound && !m.follow then sys (.statusOfName path) else pure (.error e)
      else sys (.statusOfName path)
    match found with
    | .error e => trouble s!"cannot access {inQuotes path}: {e.words.1}" 2
    | .ok s =>
      if s.kind = .directory && !m.asNames then dirs := dirs ++ [⟨path, path, s⟩]
      else plain := plain ++ [⟨path, path, s⟩]
  m.present plain
  let titled := m.deep || 1 < paths.length
  m.directories titled streamFuel plain.isEmpty ((m.sorted dirs).map (·.path))

/-! ## What is known of a file -/

/-- What a directive of `stat` stands for. -/
def statDirective (path : String) (s : Status) (c : Char) : String :=
  match c with
  | 'n' => path
  | 'N' =>
    match s.target with
    | some text => s!"{inQuotes path} -> {inQuotes text}"
    | none => inQuotes path
  | 's' => Text.decimal s.size
  | 'a' => Mode.octal 1 s.mode
  | 'A' => (kindLetter s).toString ++ Mode.letters s.mode
  | 'F' => kindWords s
  | 'h' => Text.decimal s.links
  | 'i' => Text.decimal (inodeOf s)
  | 'u' => "0"
  | 'g' => "0"
  | 'U' => "root"
  | 'G' => "root"
  | 'b' => Text.decimal (blocksOf s * 2)
  | 'B' => "512"
  | 'o' => "4096"
  | 'f' =>
    let kind := match kindLetter s with
      | 'd' => 0x4000
      | 'l' => 0xa000
      | 'c' => 0x2000
      | _ => 0x8000
    String.ofList (Nat.toDigits 16 (kind + s.mode))
  | 'Y' => toString (worldTime s.time / 1000000000)
  | 'y' => dateText (worldTime s.time) 100 "%F %T.%N %z".toList
  | 'X' => toString (worldTime s.time / 1000000000)
  | 'Z' => toString (worldTime s.time / 1000000000)
  | 'W' => "0"
  | 'm' => "/"
  | 'd' => "2049"
  | 't' => "0"
  | 'T' => "0"
  | _ => "?"

/-- What a format of `stat` makes of a file. -/
def statText (path : String) (s : Status) : Nat → List Char → List Char
  | 0, _ => []
  | _, [] => []
  | _, ['%'] => ['%']
  | fuel + 1, '%' :: '%' :: rest => '%' :: statText path s fuel rest
  | fuel + 1, '%' :: rest =>
    let flags := rest.takeWhile fun c => ['0', '-', '+', ' ', '#', '\''].contains c
    let rest := rest.drop flags.length
    let digits := rest.takeWhile Char.isDigit
    match rest.drop digits.length with
    | [] => '%' :: flags ++ digits
    | c :: rest =>
      let text := (statDirective path s c).toList
      let room := ((Text.digits? digits).getD 0) - text.length
      let padded := if flags.contains '-' then text ++ List.replicate room ' '
        else List.replicate room (if flags.contains '0' then '0' else ' ') ++ text
      padded ++ statText path s fuel rest
  | fuel + 1, c :: rest => c :: statText path s fuel rest

/-- What `stat` says if it is not asked for anything special. -/
def statReport (path : String) (s : Status) : String :=
  let of (c : Char) : String := statDirective path s c
  let wide (n : Nat) (text : String) : String :=
    text ++ String.ofList (List.replicate (n - text.length) ' ')
  let name := match s.target with
    | some text => s!"{path} -> {text}"
    | none => path
  let (size, blocks, kind) := (wide 10 (of 's'), wide 10 (of 'b'), of 'F')
  let (number, links, time) := (wide 11 (of 'i'), of 'h', of 'y')
  let (mode, letters) := (Mode.octal 4 s.mode, of 'A')
  let sizes := s!"  Size: {size}\tBlocks: {blocks} IO Block: 4096   {kind}\n"
  let place := s!"Device: 8,1\tInode: {number} Links: {links}\n"
  let access := s!"Access: ({mode}/{letters})  Uid: (    0/    root)   Gid: (    0/    root)\n"
  s!"  File: {name}\n{sizes}{place}{access}Access: {time}\nModify: {time}\nChange: {time}\n" ++
    " Birth: -\n"

def stat : Tool := fun arguments => do
  let g : Grammar := { kinds := [⟨'c', "format", .argument⟩, ⟨'p', "printf", .argument⟩,
    ⟨'L', "dereference", .nothing⟩, ⟨'f', "file-system", .nothing⟩, ⟨'t', "terse", .nothing⟩] }
  let (chosen, paths) ← g.all arguments
  if paths.isEmpty then needsMore "operand"
  for path in paths do
    match ← if chosen.has 'L' then sys (.status path) else sys (.statusOfName path) with
    | .error e => trouble s!"cannot statx {inQuotes path}: {e.words.1}"
    | .ok s =>
      match chosen.lastOf ['c', 'p'] with
      | some 'c' =>
        let format := ((chosen.text? 'c').getD "").toList
        put 1 (statText path s (format.length + 1) format ++ ['\n'])
      | some _ =>
        let format := ((chosen.text? 'p').getD "").toList
        let (format, _) := Printf.unescape { hex := true } (format.length + 1) format
        put 1 (statText path s (format.length + 1) format)
      | none => say (statReport path s)

/-- The tools of this module by their names. -/
def listingTools : List (String × Tool) := [("ls", ls), ("stat", stat)]

end Testbed.Rehearsal.Machine.Tool
