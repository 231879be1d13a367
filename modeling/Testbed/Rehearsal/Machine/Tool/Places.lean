import Testbed.Rehearsal.Machine.Mode
import Testbed.Rehearsal.Machine.Tool.Calendar
import Testbed.Rehearsal.Machine.Tool.Plain
import Testbed.Rehearsal.Machine.Tool.Reading
/-!
# Tools that make things and take them away

Programs that change what is in a directory, one name at a time: files, directories and links, and
what may be done with them.
-/
namespace Testbed.Rehearsal.Machine.Tool

open Act

/-- The path of a name in a directory. -/
def inside (dir name : String) : String :=
  if dir.toList.getLast? = some '/' then dir ++ name else s!"{dir}/{name}"

/-- What a path leads to, links and all. -/
def kindAt (path : String) : Act (Option PathKind) := do
  return ((← sys (.status path)).toOption).map (·.kind)

def isDirectory (path : String) : Act Bool := return (← kindAt path) = some .directory

/-- Complains that something needs more arguments. -/
def needsMore {α : Type} (what : String) : Act α := misuse s!"missing {what}"

/-- Reads a line from standard input. -/
def readAnswer : Nat → Act (List Char)
  | 0 => return []
  | fuel + 1 => do
    match ← sys (.read 0 1) with
    | .ok ['\n'] => return []
    | .ok [c] => return c :: (← readAnswer fuel)
    | _ => return []

/-- Asks whoever is at standard input, and tells whether the answer is yes. -/
def agreed (question : String) : Act Bool := do
  let _ ← sys (.write 2 s!"{← name}: {question}? ".toList)
  let answer ← readAnswer 100000
  return answer.head? = some 'y' || answer.head? = some 'Y'

/-- What a thing is, in words. -/
def kindWords (s : Status) : String :=
  if s.target.isSome then "symbolic link"
  else match s.kind with
    | .directory => "directory"
    | .file => if s.size = 0 then "regular empty file" else "regular file"
    | _ => "character special file"

/-! ## Directories -/

/-- The paths on the way to one, from the first component on. -/
def pathsTo (path : String) : List String :=
  go [] path.toList (path.length + 1)
where
  go (front : List Char) (rest : List Char) : Nat → List String
    | 0 => []
    | fuel + 1 =>
      let slashes := rest.takeWhile (· = '/')
      let name := (rest.drop slashes.length).takeWhile (· ≠ '/')
      if name.isEmpty then []
      else
        let here := front ++ slashes ++ name
        let behind := rest.drop (slashes.length + name.length)
        if behind.all (· = '/') then [String.ofList (here ++ behind)]
        else String.ofList here :: go here behind fuel

/-- The mode that an option gives to something new. -/
def givenMode (chosen : Chosen) (isDirectory : Bool) (usual : Nat) : Act Nat := do
  match chosen.text? 'm' with
  | none => return usual
  | some text =>
    let mask ← sys (.mask none)
    match Mode.read? mask isDirectory usual text with
    | some mode => return mode
    | none => fail s!"invalid mode {inQuotes text}"

/-- Makes a directory; one that was given a mode has it whatever is withheld. -/
def makeDirectory (path : String) (mode : Nat) (exact : Bool) : Act (Except OsError Unit) := do
  match ← sys (.change path (.makeDirectory mode)) with
  | .error e => return .error e
  | .ok _ => if exact then sys (.change path (.permit mode)) else return .ok ()

/-- Makes a directory and those on the way to it. -/
def makeWithParents (mode : Nat) (exact loud : Bool) : List String → Act Unit
  | [] => return ()
  | path :: rest => do
    let said : Act Unit := if loud then do
        say s!"{← name}: created directory {inQuotes path}\n"
      else return ()
    let last := rest.isEmpty
    match ← makeDirectory path (if last then mode else 0o777) (exact && last) with
    | .ok _ =>
      said
      makeWithParents mode exact loud rest
    | .error e =>
      if ← isDirectory path then makeWithParents mode exact loud rest
      else
        let words := if e = .alreadyThere && !last then OsError.notADirectory.words.1 else e.words.1
        trouble s!"cannot create directory {inQuotes path}: {words}"

def mkdir : Tool := fun arguments => do
  let g : Grammar := { kinds := [⟨'p', "parents", .nothing⟩, ⟨'v', "verbose", .nothing⟩,
    ⟨'m', "mode", .argument⟩] }
  let (chosen, paths) ← g.all arguments
  if paths.isEmpty then needsMore "operand"
  let mode ← givenMode chosen true 0o777
  let exact := chosen.has 'm'
  for path in paths do
    if chosen.has 'p' && !path.isEmpty then
      makeWithParents mode exact (chosen.has 'v') (pathsTo path)
    else match ← makeDirectory path mode exact with
      | .ok _ => if chosen.has 'v' then say s!"{← name}: created directory {inQuotes path}\n"
      | .error e => trouble s!"cannot create directory {inQuotes path}: {e.words.1}"

def rmdir : Tool := fun arguments => do
  let g : Grammar := { kinds := [⟨'p', "parents", .nothing⟩, ⟨'v', "verbose", .nothing⟩,
    ⟨'i', "ignore-fail-on-non-empty", .nothing⟩] }
  let (chosen, paths) ← g.all arguments
  if paths.isEmpty then needsMore "operand"
  let told (path : String) : Act Unit := if chosen.has 'v' then do
      say s!"{← name}: removing directory, {inQuotes path}\n"
    else return ()
  for path in paths do
    told path
    match ← sys (.change path .removeDirectory) with
    | .error e =>
      unless e = .notEmpty && chosen.has 'i' do
        trouble s!"failed to remove {inQuotes path}: {e.words.1}"
    | .ok _ =>
      if chosen.has 'p' then
        let mut goesOn := true
        for above in (pathsTo path).dropLast.reverse do
          if goesOn then
            told above
            match ← sys (.change above .removeDirectory) with
            | .ok _ => pure ()
            | .error e =>
              goesOn := false
              unless e = .notEmpty && chosen.has 'i' do
                trouble s!"failed to remove directory {inQuotes above}: {e.words.1}"

/-! ## Taking away -/

/-- How things are removed. -/
structure Removal where
  force : Bool := false
  asks : Bool := false
  deep : Bool := false
  directories : Bool := false
  loud : Bool := false

namespace Removal

def failed (path : String) (e : OsError) : Act Bool := do
  trouble s!"cannot remove {inQuotes path}: {e.words.1}"
  return false

def told (r : Removal) (text : String) : Act Unit :=
  if r.loud then say s!"{text}\n" else return ()

/-- Removes something, and tells whether it is gone. -/
def remove (r : Removal) : Nat → String → Act Bool
  | 0, _ => return false
  | fuel + 1, path => do
    match ← sys (.statusOfName path) with
    | .error e =>
      if r.force && (e = .notFound || e = .notADirectory) then return true
      failed path e
    | .ok s =>
      if s.kind ≠ .directory then
        let wanted ← if r.asks then agreed s!"remove {kindWords s} {inQuotes path}" else pure true
        if !wanted then return false
        match ← sys (.change path .unlink) with
        | .ok _ =>
          r.told s!"removed {inQuotes path}"
          return true
        | .error e => failed path e
      else if !r.deep && !r.directories then failed path .isADirectory
      else
        let entries := ((← sys (.list path)).toOption).getD []
        if r.deep then
          if !entries.isEmpty then
            let enters ← if r.asks then agreed s!"descend into directory {inQuotes path}"
              else pure true
            if !enters then return false
            for entry in entries do
              let _ ← r.remove fuel (inside path entry)
        let left := ((← sys (.list path)).toOption).getD []
        if r.deep && !left.isEmpty && r.asks then return false
        let wanted ← if r.asks then agreed s!"remove directory {inQuotes path}" else pure true
        if !wanted then return false
        match ← sys (.change path .removeDirectory) with
        | .ok _ =>
          r.told s!"removed directory {inQuotes path}"
          return true
        | .error e => failed path e

end Removal

def rm : Tool := fun arguments => do
  let g : Grammar := { kinds := [⟨'f', "force", .nothing⟩, ⟨'i', "", .nothing⟩,
    ⟨'I', "", .nothing⟩, ⟨'r', "recursive", .nothing⟩, ⟨'R', "", .nothing⟩, ⟨'d', "dir", .nothing⟩,
    ⟨'v', "verbose", .nothing⟩, ⟨'P', "preserve-root", .maybe⟩,
    ⟨'N', "no-preserve-root", .nothing⟩, ⟨'X', "one-file-system", .nothing⟩] }
  let (chosen, paths) ← g.all arguments
  let r : Removal :=
    { force := chosen.lastOf ['f', 'i', 'I'] = some 'f', asks := chosen.lastOf ['f', 'i'] = some 'i'
      deep := chosen.has 'r' || chosen.has 'R', directories := chosen.has 'd'
      loud := chosen.has 'v' }
  if paths.isEmpty && !r.force then needsMore "operand"
  for path in paths do
    let last := lastComponent path
    let dots := last = "." || last = ".."
    if r.deep && dots && (← isDirectory path) then
      trouble s!"refusing to remove '.' or '..' directory: skipping {inQuotes path}"
    else if r.deep && last = "/" then
      complain "it is dangerous to operate recursively on '/'"
      trouble "use --no-preserve-root to override this failsafe"
    else
      let _ ← r.remove 1000 path

def unlink : Tool := fun arguments => do
  let (_, paths) ← ({ kinds := [] } : Grammar).all arguments
  match paths with
  | [] => needsMore "operand"
  | [path] =>
    match ← sys (.change path .unlink) with
    | .ok _ => return ()
    | .error e => fail s!"cannot unlink {inQuotes path}: {e.words.1}"
  | _ :: extra :: _ => misuse s!"extra operand {inQuotes extra}"

/-! ## Links -/

def link : Tool := fun arguments => do
  let (_, paths) ← ({ kinds := [] } : Grammar).all arguments
  match paths with
  | [] => needsMore "operand"
  | [path] => misuse s!"missing operand after {inQuotes path}"
  | [path, new] =>
    match ← sys (.change path (.link new)) with
    | .ok _ => return ()
    | .error e => fail s!"cannot create link {inQuotes new} to {inQuotes path}: {e.words.1}"
  | _ :: _ :: extra :: _ => misuse s!"extra operand {inQuotes extra}"

/-- How links are made. -/
structure Linking where
  symbolic : Bool
  force : Bool
  loud : Bool

/-- Makes a link. -/
def Linking.make (l : Linking) (source new : String) : Act Unit := do
  let attempt : Act (Except OsError Unit) :=
    if l.symbolic then sys (.change new (.refer source)) else sys (.change source (.link new))
  let source? ← if l.symbolic then pure (.error .notFound) else sys (.statusOfName source)
  match source?, l.symbolic with
  | .error e, false => trouble s!"failed to access {inQuotes source}: {e.words.1}"
  | .ok { kind := .directory, .. }, false =>
    trouble s!"{shownName source}: hard link not allowed for directory"
  | s?, _ =>
    let old := ((← sys (.statusOfName new)).toOption)
    let same : Bool := match s?, old with
      | .ok s, some o => s.identity = o.identity
      | _, _ => false
    if l.force && same && source = new then
      trouble s!"{inQuotes source} and {inQuotes new} are the same file"
    else
      if l.force && !same && old.any (·.kind ≠ .directory) then
        let _ ← sys (.change new .unlink)
      let result ← if l.force && same then pure (.ok ()) else attempt
      match result with
      | .ok _ =>
        let arrow := if l.symbolic then "->" else "=>"
        if l.loud then say s!"{inQuotes new} {arrow} {inQuotes source}\n"
      | .error e =>
        let what := if l.symbolic then "symbolic" else "hard"
        let shown := if l.symbolic || e = .alreadyThere then inQuotes new
          else s!"{inQuotes new} => {inQuotes source}"
        trouble s!"failed to create {what} link {shown}: {e.words.1}"

def ln : Tool := fun arguments => do
  let g : Grammar := { kinds := [⟨'s', "symbolic", .nothing⟩, ⟨'f', "force", .nothing⟩,
    ⟨'n', "no-dereference", .nothing⟩, ⟨'T', "no-target-directory", .nothing⟩,
    ⟨'t', "target-directory", .argument⟩, ⟨'v', "verbose", .nothing⟩, ⟨'i', "", .nothing⟩,
    ⟨'L', "logical", .nothing⟩, ⟨'P', "physical", .nothing⟩, ⟨'r', "relative", .nothing⟩] }
  let (chosen, paths) ← g.all arguments
  let l : Linking :=
    { symbolic := chosen.has 's', force := chosen.has 'f', loud := chosen.has 'v' }
  let isTarget (path : String) : Act Bool := do
    let plain := chosen.has 'n' && (((← sys (.statusOfName path)).toOption).bind (·.target)).isSome
    if plain then return false else isDirectory path
  let into (dir : String) (sources : List String) : Act Unit := do
    for source in sources do l.make source (inside dir (lastComponent source))
  match chosen.text? 't', paths with
  | _, [] => needsMore "file operand"
  | some dir, sources =>
    if ← isDirectory dir then into dir sources
    else
      let e := match ← sys (.status dir) with
        | .error e => e
        | .ok _ => .notADirectory
      fail s!"target directory {inQuotes dir}: {e.words.1}"
  | none, [source] => l.make source (inside "." (lastComponent source))
  | none, [source, new] =>
    if !chosen.has 'T' && (← isTarget new) then into new [source] else l.make source new
  | none, sources =>
    let dir := sources.getLast?.getD ""
    if ← isDirectory dir then into dir sources.dropLast
    else
      let e := match ← sys (.status dir) with
        | .error e => e
        | .ok _ => .notADirectory
      fail s!"target {inQuotes dir}: {e.words.1}"

/-- The way to what a path leads to, without links and points. The last component need not be
there; `loose` asks for none to be. -/
def resolved (loose strict : Bool) (path : String) : Act (Except OsError String) := do
  if path.isEmpty then return .error .notFound
  let absolute := path.toList.head? = some '/'
  let start ← if absolute then pure "" else sys .directory
  go 2000 40 (if start = "/" then "" else start) (Files.components path)
where
  go : Nat → Nat → String → List String → Act (Except OsError String)
    | 0, _, _, _ => return .error .tooManyLinks
    | _, _, here, [] => return .ok (if here.isEmpty then "/" else here)
    | fuel + 1, links, here, name :: rest => do
      if name = "" || name = "." then go fuel links here rest
      else if name = ".." then
        let cs := here.toList.reverse.dropWhile (· ≠ '/')
        go fuel links (String.ofList (cs.drop 1).reverse) rest
      else
        let next := s!"{here}/{name}"
        match ← sys (.statusOfName next) with
        | .error e =>
          let last := rest.all (· = "")
          if loose then go fuel links next rest
          else if e = .notFound && last && !strict then return .ok next
          else return .error e
        | .ok s =>
          match s.target with
          | some text =>
            match links with
            | 0 => return .error .tooManyLinks
            | links + 1 =>
              let front := if Files.isAbsolute text then "" else here
              go fuel links front (Files.components text ++ rest)
          | none =>
            if s.kind ≠ .directory && !rest.isEmpty && !loose then
              return .error .notADirectory
            go fuel links next rest

def realpath : Tool := fun arguments => do
  let g : Grammar := { kinds := [⟨'e', "canonicalize-existing", .nothing⟩,
    ⟨'m', "canonicalize-missing", .nothing⟩, ⟨'q', "quiet", .nothing⟩, ⟨'s', "strip", .nothing⟩,
    ⟨'s', "no-symlinks", .nothing⟩, ⟨'z', "zero", .nothing⟩, ⟨'L', "logical", .nothing⟩,
    ⟨'P', "physical", .nothing⟩] }
  let (chosen, paths) ← g.all arguments
  if paths.isEmpty then needsMore "operand"
  for path in paths do
    match ← resolved (chosen.has 'm') (chosen.has 'e') path with
    | .ok text => say (text ++ if chosen.has 'z' then "\x00" else "\n")
    | .error e =>
      if chosen.has 'q' then setStatus 1 else trouble s!"{shownName path}: {e.words.1}"

def readlink : Tool := fun arguments => do
  let g : Grammar := { kinds := [⟨'f', "canonicalize", .nothing⟩,
    ⟨'e', "canonicalize-existing", .nothing⟩, ⟨'m', "canonicalize-missing", .nothing⟩,
    ⟨'n', "no-newline", .nothing⟩, ⟨'q', "quiet", .nothing⟩, ⟨'s', "silent", .nothing⟩,
    ⟨'v', "verbose", .nothing⟩, ⟨'z', "zero", .nothing⟩] }
  let (chosen, paths) ← g.all arguments
  if paths.isEmpty then needsMore "operand"
  let mark := if chosen.has 'z' then "\x00"
    else if chosen.has 'n' && paths.length = 1 then "" else "\n"
  for path in paths do
    let found ← match chosen.lastOf ['f', 'e', 'm'] with
      | some c => resolved (c = 'm') (c = 'e') path
      | none => do
        match ← sys (.statusOfName path) with
        | .error e => pure (.error e)
        | .ok s => pure (match s.target with
          | some text => .ok text
          | none => .error .invalid)
    match found with
    | .ok text => say (text ++ mark)
    | .error e =>
      if chosen.has 'v' then trouble s!"{shownName path}: {e.words.1}" else setStatus 1

/-! ## Files -/

def touch : Tool := fun arguments => do
  let g : Grammar := { kinds := [⟨'a', "", .nothing⟩, ⟨'m', "", .nothing⟩,
    ⟨'c', "no-create", .nothing⟩, ⟨'h', "no-dereference", .nothing⟩, ⟨'d', "date", .argument⟩,
    ⟨'t', "", .argument⟩, ⟨'r', "reference", .argument⟩, ⟨'f', "", .nothing⟩,
    ⟨'T', "time", .argument⟩] }
  let (chosen, paths) ← g.all arguments
  let now := worldTime (← sys .now)
  let time ← match chosen.lastOf ['d', 't', 'r'] with
    | some 'd' =>
      let text := (chosen.text? 'd').getD ""
      match writtenTime? (now / 1000000000) text with
      | some time => pure (some (machineTime time))
      | none => fail s!"invalid date format {inQuotes text}"
    | some 't' =>
      let text := (chosen.text? 't').getD ""
      match stampTime? (Day.ofNumber (now / 86400000000000)).year text with
      | some time => pure (some (machineTime (time * 1000000000)))
      | none => fail s!"invalid date format {inQuotes text}"
    | some _ =>
      let path := (chosen.text? 'r').getD ""
      match ← sys (.status path) with
      | .ok s => pure (some s.time)
      | .error e => fail s!"failed to get attributes of {inQuotes path}: {e.words.1}"
    | none => pure none
  if paths.isEmpty then needsMore "file operand"
  for path in paths do
    let there := (← sys (.status path)).toOption.isSome
    unless path = "-" || (chosen.has 'c' && !there) do
      match ← sys (.change path (.touch time)) with
      | .ok _ => pure ()
      | .error e =>
        let slash := 1 < path.length && path.toList.getLast? = some '/'
        if slash && (e = .notFound || e = .notADirectory) then
          trouble s!"setting times of {inQuotes path}: {e.words.1}"
        else trouble s!"cannot touch {inQuotes path}: {e.words.1}"

/-- The arguments of `chmod`: a mode that begins with a dash is no option. -/
def splitModes (arguments : List String) : List String × List String :=
  let isMode (text : String) : Bool :=
    match text.toList with
    | '-' :: c :: _ => "rwxXstugoa,+=01234567".toList.contains c
    | _ => false
  let front := arguments.takeWhile (· ≠ "--")
  (front.filter isMode, front.filter (!isMode ·) ++ arguments.drop front.length)

/-- Changes the mode of something, and of all that is in it perhaps. -/
def changeMode (chosen : Chosen) (withheld : Nat) (mode : String) : Nat → String → Act Unit
  | 0, _ => return ()
  | fuel + 1, path => do
    match ← sys (.status path) with
    | .error e =>
      unless chosen.has 'f' do complain s!"cannot access {inQuotes path}: {e.words.1}"
      if chosen.has 'v' then say s!"{inQuotes path} could not be accessed\n"
      setStatus 1
    | .ok s =>
      let new := (Mode.read? withheld (s.kind = .directory) s.mode mode).getD s.mode
      match ← sys (.change path (.permit new)) with
      | .error e => trouble s!"changing permissions of {inQuotes path}: {e.words.1}"
      | .ok _ =>
        let shown (mode : Nat) : String := s!"{Mode.octal 4 mode} ({Mode.letters mode})"
        if new ≠ s.mode && (chosen.has 'v' || chosen.has 'c') then
          say s!"mode of {inQuotes path} changed from {shown s.mode} to {shown new}\n"
        else if chosen.has 'v' then
          say s!"mode of {inQuotes path} retained as {shown new}\n"
      if chosen.has 'R' && s.kind = .directory then
        for entry in ((← sys (.list path)).toOption).getD [] do
          changeMode chosen withheld mode fuel (inside path entry)

def chmod : Tool := fun arguments => do
  let g : Grammar := { kinds := [⟨'R', "recursive", .nothing⟩, ⟨'v', "verbose", .nothing⟩,
    ⟨'c', "changes", .nothing⟩, ⟨'f', "silent", .nothing⟩, ⟨'f', "quiet", .nothing⟩,
    ⟨'P', "preserve-root", .nothing⟩, ⟨'N', "no-preserve-root", .nothing⟩,
    ⟨'e', "reference", .argument⟩] }
  let (modes, arguments) := splitModes arguments
  let (chosen, operands) ← g.all arguments
  let withheld ← sys (.mask none)
  let ofFile ← match chosen.text? 'e' with
    | none => pure none
    | some path =>
      match ← sys (.status path) with
      | .ok s => pure (some (Mode.octal 4 s.mode))
      | .error e => fail s!"failed to get attributes of {inQuotes path}: {e.words.1}"
  let dashed := if modes.isEmpty then none else some (Text.join "," modes)
  let (mode, paths) ← match ofFile, dashed, operands with
    | some mode, _, paths => pure (mode, paths)
    | none, some mode, paths => pure (mode, paths)
    | none, none, mode :: paths =>
      if paths.isEmpty then misuse s!"missing operand after {inQuotes mode}"
      pure (mode, paths)
    | none, none, [] => needsMore "operand"
  if paths.isEmpty then needsMore "operand"
  if (Mode.read? withheld false 0 mode).isNone then misuse s!"invalid mode: {inQuotes mode}"
  for path in paths do changeMode chosen withheld mode 1000 path

/-- A size that `truncate` reads, with the sign that tells how it is meant. -/
def resized? (text : String) (size : Nat) : Option Nat :=
  let cs := text.toList.dropWhile (· = ' ')
  let (sign, digits) := match cs with
    | c :: rest => if ['+', '-', '<', '>', '/', '%'].contains c then (c, rest) else ('=', cs)
    | [] => ('=', [])
  (sized? digits).bind fun n =>
    match sign with
    | '+' => some (size + n)
    | '-' => some (size - n)
    | '<' => some (min size n)
    | '>' => some (max size n)
    | '/' => if n = 0 then none else some (size / n * n)
    | '%' => if n = 0 then none else some ((size + n - 1) / n * n)
    | _ => some n

def truncate : Tool := fun arguments => do
  let g : Grammar := { kinds := [⟨'c', "no-create", .nothing⟩, ⟨'s', "size", .argument⟩,
    ⟨'r', "reference", .argument⟩, ⟨'o', "io-blocks", .nothing⟩] }
  let (chosen, paths) ← g.all arguments
  let base ← match chosen.text? 'r' with
    | none => pure none
    | some path =>
      match ← sys (.status path) with
      | .ok s => pure (some s.size)
      | .error e => fail s!"cannot stat {inQuotes path}: {e.words.1}"
  let text := chosen.text? 's'
  if text.isNone && base.isNone then misuse "you must specify either '--size' or '--reference'"
  if let some text := text then
    if (resized? text 0).isNone then fail s!"Invalid number: {inQuotes text}"
  if paths.isEmpty then needsMore "file operand"
  for path in paths do
    let there := (← sys (.status path)).toOption
    unless chosen.has 'c' && there.isNone do
      match ← sys (.open path .append) with
      | .error e => trouble s!"cannot open {inQuotes path} for writing: {e.words.1}"
      | .ok fd =>
        let _ ← sys (.close fd)
        let content := ((← contentOf path false).toOption).getD []
        let size := base.getD content.length
        let new := match text with
          | some text => (resized? text size).getD size
          | none => size
        let _ ← writeFile path
          (content.take new ++ List.replicate (new - content.length) '\x00')

/-- Letters for names that nobody has thought of. -/
def arbitrary (seed : Nat) : Nat → List Char
  | 0 => []
  | n + 1 =>
    let letters := "abcdefghijklmnopqrstuvwxyzABCDEFGHIJKLMNOPQRSTUVWXYZ0123456789".toList
    let next := (seed * 6364136223846793005 + 1442695040888963407) % Nat.pow 2 64
    (letters[next / Nat.pow 2 32 % 62]?.getD 'x') :: arbitrary next n

def mktemp : Tool := fun arguments => do
  let g : Grammar := { kinds := [⟨'d', "directory", .nothing⟩, ⟨'u', "dry-run", .nothing⟩,
    ⟨'q', "quiet", .nothing⟩, ⟨'p', "tmpdir", .maybe⟩, ⟨'t', "", .nothing⟩,
    ⟨'s', "suffix", .argument⟩] }
  let (chosen, operands) ← g.all (match arguments with
    | "-p" :: dir :: rest => ("-p" ++ dir) :: rest
    | "-d" :: "-p" :: dir :: rest => "-d" :: ("-p" ++ dir) :: rest
    | rest => rest)
  let template := operands.head?.getD "tmp.XXXXXXXXXX"
  let cs := template.toList
  let suffix := (cs.reverse.takeWhile (· ≠ 'X')).reverse
  let front := cs.take (cs.length - suffix.length)
  let marks := (front.reverse.takeWhile (· = 'X')).length
  if 1 < operands.length then misuse "too many templates"
  if marks < 3 then fail s!"too few X's in template {inQuotes template}"
  let (pid, _) ← sys .self
  let letters := arbitrary (pid * 1000003 + (← sys .now)) marks
  let end_ := String.ofList suffix ++ (chosen.text? 's').getD ""
  let base := String.ofList (front.take (front.length - marks) ++ letters) ++ end_
  let usual := ((← read).environment.lookup "TMPDIR").getD "/tmp"
  let path := match chosen.text? 'p', operands with
    | some dir, _ => inside (if dir.isEmpty then usual else dir) base
    | none, [] => inside usual base
    | none, _ => if chosen.has 't' then inside usual base else base
  let shown := inQuotes (match chosen.text? 'p', operands with
    | some dir, _ => inside (if dir.isEmpty then usual else dir) template
    | none, [] => inside usual template
    | none, _ => template)
  unless chosen.has 'u' do
    if chosen.has 'd' then
      match ← sys (.change path (.makeDirectory 0o700)) with
      | .ok _ => pure ()
      | .error e => fail s!"failed to create directory via template {shown}: {e.words.1}"
    else
      match ← sys (.open path .create) with
      | .ok fd =>
        let _ ← sys (.close fd)
        let _ ← sys (.change path (.permit 0o600))
      | .error e => fail s!"failed to create file via template {shown}: {e.words.1}"
  say s!"{path}\n"

/-- The tools of this module by their names. -/
def placeTools : List (String × Tool) :=
  [("chmod", chmod),
   ("date", date),
   ("link", link),
   ("ln", ln),
   ("mkdir", mkdir),
   ("mktemp", mktemp),
   ("readlink", readlink),
   ("realpath", realpath),
   ("rm", rm),
   ("rmdir", rmdir),
   ("touch", touch),
   ("truncate", truncate),
   ("unlink", unlink)]

end Testbed.Rehearsal.Machine.Tool
