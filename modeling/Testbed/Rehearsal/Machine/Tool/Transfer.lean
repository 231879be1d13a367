import Testbed.Rehearsal.Machine.Tool.Places
/-!
# Tools that copy and move

Programs that bring files and directories to another place. What is at that place already decides
what happens: a directory takes things in, a file is replaced, and a thing is never put into itself.
-/
namespace Testbed.Rehearsal.Machine.Tool

open Act

/-- How things are copied or moved. -/
structure Copying where
  moves : Bool := false
  deep : Bool := false
  /-- Whether copies keep the mode and the time of what they were made from. -/
  exact : Bool := false
  asks : Bool := false
  /-- Whether what is there already is kept. -/
  keeps : Bool := false
  /-- Whether what is there already is kept unless it is older. -/
  updates : Bool := false
  loud : Bool := false
  /-- Whether hard links are made in place of copies. -/
  linked : Bool := false
  /-- Whether symbolic links are made in place of copies. -/
  referred : Bool := false
  /-- Whether symbolic links are copied themselves. -/
  keepsLinks : Bool := false

/-- What was done so far. -/
structure Copied where
  /-- What was made from the arguments. -/
  made : List String := []
  /-- The first directory that was made for an argument. -/
  root : Option String := none

namespace Copying

/-- Complains, and leaves all as it is. -/
def refuse (st : Copied) (text : String) : Act Copied := do
  trouble text
  return st

/-- What an argument is called, and where it goes, in messages. -/
structure Journey where
  source : String
  target : String

/-- Makes a new file or changes one, so that it holds what another one does. -/
def fill (c : Copying) (source target : String) (s : Status) (there : Bool) : Act Bool := do
  match ← contentOf source false with
  | .error e =>
    trouble s!"cannot open {inQuotes source} for reading: {e.words.1}"
    return false
  | .ok text =>
    match ← writeFile target text with
    | .error e =>
      let slash := target.toList.getLast? = some '/'
      let words := if slash && e = .isADirectory then OsError.notADirectory.words.1 else e.words.1
      trouble s!"cannot create regular file {inQuotes target}: {words}"
      return false
    | .ok _ =>
      let mask ← sys (.mask none)
      if !there || c.exact then
        let mode := if c.exact then s.mode else s.mode &&& (0o777 ^^^ mask)
        let _ ← sys (.change target (.permit mode))
      if c.exact then
        let _ ← sys (.change target (.touch (some s.time)))
      return true

/-- Makes a copy of something that is no directory. -/
def copyFile (c : Copying) (source target : String) (s : Status) (old : Option Status) :
    Act Bool := do
  let replaces : Act Unit := do
    if old.isSome then
      let _ ← sys (.change target .unlink)
  match s.target with
  | some text =>
    replaces
    match ← sys (.change target (.refer text)) with
    | .ok _ => return true
    | .error e =>
      trouble s!"cannot create symbolic link {inQuotes target}: {e.words.1}"
      return false
  | none =>
    if c.linked || c.referred then
      replaces
      match ← if c.linked then sys (.change source (.link target))
          else sys (.change target (.refer source)) with
      | .ok _ => return true
      | .error e =>
        let what := if c.linked then "hard" else "symbolic"
        trouble s!"cannot create {what} link {inQuotes target} to {inQuotes source}: {e.words.1}"
        return false
    else if old.any (·.target.isSome) && (← sys (.status target)).toOption.isNone then
      trouble s!"not writing through dangling symlink {inQuotes target}"
      return false
    else c.fill source target s old.isSome

/-- Whether something that is there already may be replaced. -/
def mayReplace (c : Copying) (target : String) (s old : Status) : Act Bool := do
  if c.updates && s.time ≤ old.time then return false
  else if c.keeps then
    if c.moves then trouble s!"not replacing {inQuotes target}"
    return false
  else if c.asks then
    let yes ← agreed s!"overwrite {inQuotes target}"
    unless yes do setStatus 1
    return yes
  else return true

/-- Moves something by giving it another name. -/
def rename (j : Journey) (source target : String) (old : Option Status) : Act Bool := do
  match ← sys (.change source (.rename target)) with
  | .ok _ => return true
  | .error e =>
    if e = .invalid then
      let journey := s!"{inQuotes j.source} to a subdirectory of itself, {inQuotes j.target}"
      trouble s!"cannot move {journey}"
    else if e = .notEmpty && old.isSome then
      trouble s!"cannot overwrite {inQuotes target}: {e.words.1}"
    else trouble s!"cannot move {inQuotes source} to {inQuotes target}: {e.words.1}"
    return false

/-- Whether the kinds of two things forbid that one takes the place of the other. -/
def clash? (source target : String) (s old : Status) : Option String :=
  match s.kind, old.kind with
  | .directory, .directory => none
  | .directory, _ =>
    some s!"cannot overwrite non-directory {inQuotes target} with directory {inQuotes source}"
  | _, .directory => some s!"cannot overwrite directory {inQuotes target} with non-directory"
  | _, _ => none

/-- Puts something to a place where nothing hinders it, and what is in it by `carry`. -/
def arrive (c : Copying) (j : Journey) (carry : String → String → Copied → Act Copied) (top : Bool)
    (source target : String) (s : Status) (old : Option Status) (st : Copied) : Act Copied := do
  let told : Act Unit := if c.loud && !c.moves then do
      say s!"{inQuotes source} -> {inQuotes target}\n"
    else return ()
  let noted (st : Copied) : Act Copied := do
    match ← sys (.statusOfName target) with
    | .ok new => return if top then { st with made := new.identity :: st.made } else st
    | .error _ => return st
  if c.moves then
    if ← rename j source target old then
      if c.loud then say s!"renamed {inQuotes source} -> {inQuotes target}\n"
      noted st
    else return st
  else if s.kind ≠ .directory then
    told
    if ← c.copyFile source target s old then noted st else return st
  else
    let made ← if old.isSome then pure (.ok ()) else sys (.change target (.makeDirectory s.mode))
    match made with
    | .error e => refuse st s!"cannot create directory {inQuotes target}: {e.words.1}"
    | .ok _ =>
      if old.isNone then told
      let mut st := st
      if st.root.isNone && old.isNone then
        st := { st with root := ((← sys (.status target)).toOption).map (·.identity) }
      match ← sys (.list source) with
      | .error e => refuse st s!"cannot access {inQuotes source}: {e.words.1}"
      | .ok entries =>
        for entry in entries do
          st ← carry (inside source entry) (inside target entry) st
        return st

/-- Copies or moves something. `top` tells whether it is one of the arguments. -/
def carry (c : Copying) (j : Journey) : Nat → (top : Bool) → String → String → Copied → Act Copied
  | 0, _, _, _, st => return st
  | fuel + 1, top, source, target, st => do
    let named := c.moves || c.keepsLinks
    match ← if named then sys (.statusOfName source) else sys (.status source) with
    | .error e => refuse st s!"cannot stat {inQuotes source}: {e.words.1}"
    | .ok s =>
      if s.kind = .directory && !c.deep && !c.moves then
        return ← refuse st s!"-r not specified; omitting directory {inQuotes source}"
      if st.root = some s.identity then
        return ← refuse st
          s!"cannot copy a directory, {inQuotes j.source}, into itself, {inQuotes j.target}"
      let named := (← sys (.statusOfName target)).toOption
      match ← if c.moves then sys (.statusOfName target) else sys (.status target) with
      | .error e =>
        if e ≠ .notFound then refuse st s!"cannot stat {inQuotes target}: {e.words.1}"
        else c.arrive j (c.carry j fuel false) top source target s named st
      | .ok old =>
        if s.identity = old.identity && !(c.linked && s.kind = .file && source ≠ target) then
          return ← refuse st s!"{inQuotes source} and {inQuotes target} are the same file"
        if let some text := clash? source target s old then return ← refuse st text
        if s.kind ≠ .directory || c.moves then
          if st.made.contains old.identity then
            return ← refuse st
              s!"will not overwrite just-created {inQuotes target} with {inQuotes source}"
          unless ← c.mayReplace target s old do return st
        c.arrive j (c.carry j fuel false) top source target s (named <|> some old) st

/-- Copies or moves an argument. -/
def transfer (c : Copying) (source target : String) (st : Copied) : Act Copied := do
  let st ← c.carry ⟨source, target⟩ 1000 true source target st
  return { st with root := none }

/-- The name that something has in a directory that takes it in. -/
def nameOf (source : String) : String :=
  let name := lastComponent source
  if name = ".." then "." else name

/-- Copies or moves arguments into a directory. -/
def into (c : Copying) (dir : String) (sources : List String) : Act Unit := do
  let mut st : Copied := {}
  let mut seen : List String := []
  for source in sources do
    let identity := ((← sys (.status source)).toOption).map (·.identity)
    let again := identity.any seen.contains && !c.moves
    if again then
      let kind := if ← isDirectory source then "directory" else "file"
      complain s!"warning: source {kind} {inQuotes source} specified more than once"
    else
      seen := seen ++ identity.toList
      st ← c.transfer source (inside dir (nameOf source)) st

/-- Why a path is no directory that could take something in. -/
def noDirectory (what path : String) : Act Unit := do
  let e := match ← sys (.status path) with
    | .error e => e
    | .ok _ => .notADirectory
  fail s!"{what} {inQuotes path}: {e.words.1}"

/-- Copies or moves what the arguments name to where they say. -/
def run (c : Copying) (target : Option String) (plainTarget : Bool) (paths : List String) :
    Act Unit := do
  match target, paths with
  | _, [] => needsMore "file operand"
  | some dir, sources =>
    if ← isDirectory dir then c.into dir sources else noDirectory "target directory" dir
  | none, [source] => misuse s!"missing destination file operand after {inQuotes source}"
  | none, [source, target] =>
    if !plainTarget && (← isDirectory target) then c.into target [source]
    else
      let _ ← c.transfer source target {}
  | none, sources =>
    let dir := sources.getLast?.getD ""
    if plainTarget then misuse ("extra operand " ++ inQuotes (sources[2]?.getD ""))
    if ← isDirectory dir then c.into dir sources.dropLast else noDirectory "target" dir

end Copying

def cp : Tool := fun arguments => do
  let g : Grammar := { kinds := [⟨'a', "archive", .nothing⟩, ⟨'r', "recursive", .nothing⟩,
    ⟨'R', "", .nothing⟩, ⟨'p', "", .nothing⟩, ⟨'e', "preserve", .maybe⟩, ⟨'f', "force", .nothing⟩,
    ⟨'i', "interactive", .nothing⟩, ⟨'n', "no-clobber", .nothing⟩, ⟨'u', "update", .nothing⟩,
    ⟨'v', "verbose", .nothing⟩, ⟨'T', "no-target-directory", .nothing⟩,
    ⟨'t', "target-directory", .argument⟩, ⟨'l', "link", .nothing⟩,
    ⟨'s', "symbolic-link", .nothing⟩, ⟨'d', "", .nothing⟩, ⟨'P', "no-dereference", .nothing⟩,
    ⟨'L', "dereference", .nothing⟩, ⟨'H', "", .nothing⟩, ⟨'x', "one-file-system", .nothing⟩] }
  let (chosen, paths) ← g.all arguments
  let deep := chosen.has 'r' || chosen.has 'R' || chosen.has 'a'
  let c : Copying :=
    { deep, exact := chosen.has 'p' || chosen.has 'a' || chosen.has 'e'
      asks := chosen.lastOf ['i', 'n'] = some 'i', keeps := chosen.lastOf ['i', 'n'] = some 'n'
      updates := chosen.has 'u', loud := chosen.has 'v', linked := chosen.has 'l'
      referred := chosen.has 's'
      keepsLinks := match chosen.lastOf ['d', 'P', 'a', 'L', 'H'] with
        | some 'L' => false
        | some 'H' => false
        | some _ => true
        | none => deep }
  c.run (chosen.text? 't') (chosen.has 'T') paths

def mv : Tool := fun arguments => do
  let g : Grammar := { kinds := [⟨'f', "force", .nothing⟩, ⟨'i', "interactive", .nothing⟩,
    ⟨'n', "no-clobber", .nothing⟩, ⟨'u', "update", .nothing⟩, ⟨'v', "verbose", .nothing⟩,
    ⟨'T', "no-target-directory", .nothing⟩, ⟨'t', "target-directory", .argument⟩,
    ⟨'s', "strip-trailing-slashes", .nothing⟩] }
  let (chosen, paths) ← g.all arguments
  let c : Copying :=
    { moves := true, asks := chosen.lastOf ['f', 'i', 'n'] = some 'i'
      keeps := chosen.lastOf ['f', 'i', 'n'] = some 'n'
      updates := chosen.has 'u', loud := chosen.has 'v' }
  c.run (chosen.text? 't') (chosen.has 'T') paths

def install : Tool := fun arguments => do
  let g : Grammar := { kinds := [⟨'d', "directory", .nothing⟩, ⟨'D', "", .nothing⟩,
    ⟨'m', "mode", .argument⟩, ⟨'v', "verbose", .nothing⟩, ⟨'p', "preserve-timestamps", .nothing⟩,
    ⟨'t', "target-directory", .argument⟩, ⟨'T', "no-target-directory", .nothing⟩,
    ⟨'c', "", .nothing⟩, ⟨'C', "compare", .nothing⟩, ⟨'s', "strip", .nothing⟩,
    ⟨'o', "owner", .argument⟩, ⟨'g', "group", .argument⟩] }
  let (chosen, paths) ← g.all arguments
  let mode ← givenMode chosen (chosen.has 'd') 0o755
  if chosen.has 'd' then
    if paths.isEmpty then needsMore "file operand"
    for path in paths do
      makeWithParents mode true (chosen.has 'v') (pathsTo path)
  else
    let target := (chosen.text? 't').getD (paths.getLast?.getD "")
    let sources := if chosen.has 't' then paths else paths.dropLast
    match paths with
    | [] => needsMore "file operand"
    | [source] =>
      unless chosen.has 't' do misuse s!"missing destination file operand after {inQuotes source}"
    | _ => pure ()
    let into := !chosen.has 'T' && (← isDirectory target)
    if !into && 1 < sources.length then
      let e := match ← sys (.status target) with
        | .error e => e
        | .ok _ => .notADirectory
      fail s!"target {inQuotes target}: {e.words.1}"
    if chosen.has 'D' && !into then
      makeWithParents 0o755 false false (pathsTo target).dropLast
    for source in sources do
      let new := if into then inside target (Copying.nameOf source) else target
      match ← sys (.status source) with
      | .error e => trouble s!"cannot stat {inQuotes source}: {e.words.1}"
      | .ok s =>
        if s.kind = .directory then trouble s!"omitting directory {inQuotes source}"
        else
          if chosen.has 'v' then say s!"{inQuotes source} -> {inQuotes new}\n"
          if ← Copying.fill {} source new s false then
            let _ ← sys (.change new (.permit mode))

/-! ## Block by block -/

/-- What `dd` counts. -/
structure Blocks where
  full : Nat := 0
  part : Nat := 0
  bytes : Nat := 0

/-- Reads blocks and hands on what they become. -/
def copyBlocks (size : Nat) (change : List Char → List Char) :
    Nat → Nat → Nat → Blocks → Act (Except OsError Blocks)
  | 0, _, _, b => return .ok b
  | _, 0, _, b => return .ok b
  | fuel + 1, left + 1, fd, b => do
    match ← sys (.read fd size) with
    | .error e => return .error e
    | .ok [] => return .ok b
    | .ok text =>
      put 1 (change text)
      let b := { b with bytes := b.bytes + text.length }
      copyBlocks size change fuel left fd
        (if text.length = size then { b with full := b.full + 1 }
          else { b with part := b.part + 1 })

/-- A number of bytes in the units that people use. -/
def humanBytes (n : Nat) : String :=
  let scaled (base : Nat) (units : List String) : String :=
    let power := (List.range 5).foldl (fun p i => if Nat.pow base i ≤ n then i else p) 0
    let unit := Nat.pow base power
    let tenths := (n * 10 + unit / 2) / unit
    let shown := if tenths < 100 then s!"{Text.decimal (tenths / 10)}.{Text.decimal (tenths % 10)}"
      else Text.decimal ((n + unit / 2) / unit)
    shown ++ " " ++ units[power]?.getD ""
  let decimal := scaled 1000 ["B", "kB", "MB", "GB", "TB"]
  let binary := scaled 1024 ["B", "KiB", "MiB", "GiB", "TiB"]
  if n < 1000 then s!"{Text.decimal n} byte" ++ (if n = 1 then "" else "s")
  else if n < 1024 then s!"{Text.decimal n} bytes ({decimal})"
  else s!"{Text.decimal n} bytes ({decimal}, {binary})"

def dd : Tool := fun arguments => do
  let known := ["if", "of", "bs", "ibs", "obs", "cbs", "count", "skip", "seek", "conv", "status",
    "iflag", "oflag"]
  let mut values : List (String × String) := []
  for argument in arguments do
    let key := argument.toList.takeWhile (· ≠ '=')
    let key' := String.ofList key
    if !argument.toList.contains '=' || !known.contains key' then
      misuse s!"unrecognized operand {inQuotes argument}"
    values := (key', String.ofList (argument.toList.drop (key.length + 1))) :: values
  let number (key : String) (usual : Nat) : Act Nat :=
    match values.lookup key with
    | none => return usual
    | some text =>
      let text' := text.toList.map fun c => if c = 'w' then 'k' else c
      match sized? text' with
      | some n => return n
      | none => fail s!"invalid number: {inQuotes text}"
  let size ← number "bs" (← number "ibs" 512)
  let count ← number "count" streamFuel
  let skip ← number "skip" 0
  let seek ← number "seek" 0
  if size = 0 then fail "invalid number: '0'"
  let words := (Text.cutAt ',' ((values.lookup "conv").getD "").toList).map String.ofList
  let change (text : List Char) : List Char :=
    let text := if words.contains "ucase" then text.map Char.toUpper
      else if words.contains "lcase" then text.map Char.toLower else text
    if words.contains "sync" then text ++ List.replicate (size - text.length) '\x00' else text
  let source ← match values.lookup "if" with
    | none => pure 0
    | some path =>
      match ← sys (.open path .read) with
      | .ok fd => pure fd
      | .error e => fail s!"failed to open {inQuotes path}: {e.words.1}"
  if let some path := values.lookup "of" then
    let old := ((← contentOf path false).toOption).getD []
    match ← sys (.open path (if words.contains "notrunc" then .both else .write)) with
    | .error e => fail s!"failed to open {inQuotes path}: {e.words.1}"
    | .ok fd =>
      let _ ← sys (.copyTo fd 1)
      let before := old.take (seek * size)
      put 1 (before ++ List.replicate (seek * size - before.length) '\x00')
  else put 1 (List.replicate (seek * size) '\x00')
  let rec skipped : Nat → Act Unit
    | 0 => return ()
    | n + 1 => do
      let _ ← sys (.read source size)
      skipped n
  skipped skip
  let result ← copyBlocks size change streamFuel count source {}
  match result with
  | .error e =>
    let shown := (values.lookup "if").getD "standard input"
    complain s!"error reading {inQuotes shown}: {e.words.1}"
  | .ok _ => pure ()
  let b := result.toOption.getD {}
  let tell (text : String) : Act Unit := do
    let _ ← sys (.write 2 text.toList)
  let status := (values.lookup "status").getD ""
  if status ≠ "none" then
    let rows := s!"{Text.decimal b.full}+{Text.decimal b.part} records"
    tell s!"{rows} in\n{rows} out\n"
    if status ≠ "noxfer" then
      tell s!"{humanBytes b.bytes} copied, 0.0001 s, {Text.decimal (b.bytes / 100)} MB/s\n"
  if result.toOption.isNone then quit 1

/-- The tools of this module by their names. -/
def transferTools : List (String × Tool) :=
  [("cp", cp), ("dd", dd), ("install", install), ("mv", mv)]

end Testbed.Rehearsal.Machine.Tool
