import Testbed.Process
import Testbed.Settings
import Testbed.Text.Numeral
import Testbed.Text.Pieces
import Testbed.Text.Utf8
/-!
# A tree of files

The files that a rehearsal works on: directories and files below a working directory, and the
directories of the system around it. Paths are walked as the operating system walks them, component
by component: each component but the last has to lead to a directory, `..` included, and a slash at
the end asks for a directory too. A symbolic link on the way leads on to what it names.
-/
namespace Testbed.Rehearsal

/-- Why the operating system refuses something. -/
inductive OsError
  | notPermitted
  | notFound
  | noProcess
  | noChild
  | badFormat
  | badDescriptor
  | denied
  | busy
  | alreadyThere
  | notADirectory
  | isADirectory
  | invalid
  | noSpace
  | illegalSeek
  | brokenPipe
  | nameTooLong
  | notEmpty
  | tooManyLinks
  | nulByte
  deriving DecidableEq, Repr

namespace OsError

/-- What the operating system says, and the number of the error. -/
def words : OsError → String × Nat
  | .notPermitted => ("Operation not permitted", 1)
  | .notFound => ("No such file or directory", 2)
  | .noProcess => ("No such process", 3)
  | .noChild => ("No child processes", 10)
  | .badFormat => ("Exec format error", 8)
  | .badDescriptor => ("Bad file descriptor", 9)
  | .denied => ("Permission denied", 13)
  | .busy => ("Device or resource busy", 16)
  | .alreadyThere => ("File exists", 17)
  | .notADirectory => ("Not a directory", 20)
  | .isADirectory => ("Is a directory", 21)
  | .invalid => ("Invalid argument", 22)
  | .noSpace => ("No space left on device", 28)
  | .illegalSeek => ("Illegal seek", 29)
  | .brokenPipe => ("Broken pipe", 32)
  | .nameTooLong => ("File name too long", 36)
  | .notEmpty => ("Directory not empty", 39)
  | .tooManyLinks => ("Too many levels of symbolic links", 40)
  | .nulByte => ("file name contained an unexpected NUL byte", 0)

/-- How a program tells of the error that was refused something. -/
def text (e : OsError) : String :=
  let (words, number) := e.words
  if number = 0 then words else s!"{words} (os error {Text.decimal number})"

def toIoError (e : OsError) : IoError := ⟨e.text⟩

end OsError

/-- A place in the tree, as the names on the way from its root. -/
abbrev Place := List String

/-- A file at one of its places. Its number stays with it when it loses the place. -/
structure File where
  place : Place
  id : Nat
  content : List UInt8
  /-- What may be done with it, as three octal digits. -/
  mode : Nat := 0o644
  /-- When it was changed last, in nanoseconds. -/
  time : Int := 0
  deriving DecidableEq, Repr

/-- Directories, files and symbolic links. -/
structure Files where
  directories : List Place
  files : List File
  nextId : Nat
  /-- The symbolic links, and what they name. -/
  links : List (Place × String) := []
  /-- What may be done with directories, where it is not what is usual. -/
  modes : List (Place × Nat) := []
  deriving Repr

namespace Files

/-- The working directory. -/
def home : Place := ["tmp", "w"]

/-- The directories of the system. -/
def systemDirectories : List Place :=
  [[], ["bin"], ["dev"], ["etc"], ["home"], ["proc"], ["root"], ["tmp"], ["usr"], ["usr", "bin"],
   ["var"]]

/-- An empty working directory. -/
def empty : Files :=
  { directories := systemDirectories ++ [home], files := [], nextId := 0 }

instance : Inhabited Files := ⟨empty⟩

/-- The longest name in bytes. -/
def maxName : Nat := 255

/-- The longest path in bytes, its end mark among them. -/
def maxPath : Nat := 4096

def isDirectory (t : Files) (p : Place) : Bool := t.directories.contains p

def fileAt? (t : Files) (p : Place) : Option File := t.files.find? fun f => f.place = p

/-- How many symbolic links a walk may follow. -/
def maxLinks : Nat := 40

/-- The components of a path. -/
def components (path : String) : List String := (Text.cutAt '/' path.toList).map String.ofList

/-- Whether a path begins at the root. -/
def isAbsolute (path : String) : Bool := path.toList.head? = some '/'

/-- What a walk along a path comes to. -/
inductive Target
  | directory (p : Place)
  | file (f : File)
  /-- A symbolic link that was not to be followed, and what it names. -/
  | link (p : Place) (text : String)
  /-- Nothing yet, but its directory is there. -/
  | absent (p : Place) (slash : Bool)

/-- Walks on from a directory. `follow` tells whether a symbolic link at the very end is followed;
`links` more may be. -/
def walk (t : Files) (follow : Bool) (links : Nat) (p : Place) :
    List String → Except OsError Target
  | [] => .ok (.directory p)
  | name :: rest =>
    if name = "" || name = "." then walk t follow links p rest
    else if name = ".." then walk t follow links p.dropLast rest
    else if maxName < (Text.encode name).length then .error .nameTooLong
    else
      let next := p ++ [name]
      if t.isDirectory next then walk t follow links next rest
      else match t.fileAt? next, t.links.lookup next with
        | some f, _ => if rest.isEmpty then .ok (.file f) else .error .notADirectory
        | none, some text =>
          if rest.isEmpty && !follow then .ok (.link next text)
          else match links with
            | 0 => .error .tooManyLinks
            | links + 1 =>
              walk t follow links (if isAbsolute text then [] else p) (components text ++ rest)
        | none, none =>
          if rest.all (· = "") then .ok (.absent next (!rest.isEmpty)) else .error .notFound
  termination_by names => (links, names.length)

/-- Walks a path that begins at a place, or at the root if a slash comes first. -/
def findFrom (t : Files) (follow : Bool) (start : Place) (path : String) :
    Except OsError Target :=
  if path.toList.contains '\x00' then .error .nulByte
  else if path.isEmpty then .error .notFound
  else if maxPath ≤ (Text.encode path).length then .error .nameTooLong
  else t.walk follow maxLinks (if isAbsolute path then [] else start) (components path)

/-- Walks a path from the working directory. -/
def find (t : Files) (path : String) : Except OsError Target := t.findFrom true home path

/-- Walks a path from the working directory to a name, and not on to what it stands for. -/
def findName (t : Files) (path : String) : Except OsError Target := t.findFrom false home path

def kindOf (t : Files) (path : String) : PathKind :=
  match t.find path with
  | .ok (.directory _) => .directory
  | .ok (.file _) => .file
  | _ => .missing

/-- Makes a file. Those that are made one after another get times in that order. -/
def addFile (t : Files) (p : Place) (content : List UInt8) : Files :=
  { t with
    files := t.files ++ [{ place := p, id := t.nextId, content, time := t.nextId }]
    nextId := t.nextId + 1 }

/-- Makes one directory. -/
def makeDir (t : Files) (path : String) : Except OsError Files :=
  match t.findName path with
  | .ok (.absent p _) => .ok { t with directories := t.directories ++ [p] }
  | .ok _ => .error .alreadyThere
  | .error e => .error e

/-- The components of a path, the last one first, without the blank ones and the single points that
it ends in. A point that stands alone is the working directory and stays. -/
def trimEnd : List String → List String
  | [] => []
  | [name] => if name = "" then [] else [name]
  | name :: next :: above =>
    if name = "" || name = "." then trimEnd (next :: above) else name :: next :: above

theorem length_trimEnd_le (names : List String) : (trimEnd names).length ≤ names.length := by
  fun_induction trimEnd names <;> grind

/-- The components of the path above one. -/
def above (names : List String) : List String := trimEnd (trimEnd names).tail

theorem length_above_lt {names : List String} (h : names ≠ []) :
    (above names).length < names.length := by
  have h₁ := length_trimEnd_le (trimEnd names).tail
  have h₂ := length_trimEnd_le names
  have h₃ : 0 < names.length := List.length_pos_iff.2 h
  rw [List.length_tail] at h₁
  unfold above
  omega

/-- Makes the directories of a path, the last component first if those above it are there. What was
made stays even if the rest cannot be. -/
def makeDirsOf (t : Files) (names : List String) : Except OsError Unit × Files :=
  if names = [] then (.ok (), t)
  else
    let path := "/".intercalate names.reverse
    let attempt (t : Files) : Except OsError Unit × Files :=
      match t.makeDir path with
      | .ok t => (.ok (), t)
      | .error e => (if t.kindOf path = .directory then .ok () else .error e, t)
    match t.makeDir path with
    | .error .notFound =>
      match t.makeDirsOf (above names) with
      | (.ok _, t) => attempt t
      | failed => failed
    | _ => attempt t
  termination_by names.length
  decreasing_by exact length_above_lt ‹_›

/-- Makes a directory and those above it; the empty path names one that is there. -/
def makeDirs (t : Files) (path : String) : Except OsError Unit × Files :=
  if path.isEmpty then (.ok (), t)
  else t.makeDirsOf (components path).reverse

/-- Makes a file unless it is there; the result has its number. -/
def openAppend (t : Files) (path : String) : Except OsError (Files × Nat) :=
  match t.find path with
  | .ok (.file f) => .ok (t, f.id)
  | .ok (.directory _) => .error .isADirectory
  | .ok (.link _ _) => .error .tooManyLinks
  | .ok (.absent p slash) =>
    if slash then .error .isADirectory else .ok (t.addFile p [], t.nextId)
  | .error e => .error e

/-- The size of a file; that of a directory is never zero. -/
def size (t : Files) (path : String) : Except OsError Nat :=
  match t.find path with
  | .ok (.file f) => .ok f.content.length
  | .ok (.directory _) => .ok 4096
  | .ok (.link _ _) => .error .tooManyLinks
  | .ok (.absent _ _) => .error .notFound
  | .error e => .error e

/-- Takes a file or a symbolic link away from one place. -/
def unlink (t : Files) (p : Place) : Files :=
  { t with files := t.files.filter (·.place ≠ p), links := t.links.filter (·.1 ≠ p) }

def remove (t : Files) (path : String) : Except OsError Files :=
  match t.findName path with
  | .ok (.file f) => .ok (t.unlink f.place)
  | .ok (.link p _) => .ok (t.unlink p)
  | .ok (.directory _) => .error .isADirectory
  | .ok (.absent _ _) => .error .notFound
  | .error e => .error e

/-- Adds to the file of a number; a file that has lost its place keeps nothing that shows. -/
def append (t : Files) (id : Nat) (bytes : List UInt8) : Files :=
  { t with files := t.files.map fun f =>
      if f.id = id then { f with content := f.content ++ bytes } else f }

/-- Puts a content into a file, in place of what it held. -/
def write (t : Files) (path : String) (content : List UInt8) : Except OsError Files := do
  let (t, id) ← t.openAppend path
  return { t with files := t.files.map fun f => if f.id = id then { f with content } else f }

/-! ## Changes at places -/

/-- The names in a directory. -/
def names (t : Files) (p : Place) : List String :=
  (t.directories ++ t.files.map (·.place) ++ t.links.map (·.1)).filterMap fun q =>
    if q.dropLast = p && q ≠ [] then q.getLast? else none

/-- Puts a content into the file of a number. -/
def setContent (t : Files) (id : Nat) (content : List UInt8) (time : Int) : Files :=
  { t with files := t.files.map fun f => if f.id = id then { f with content, time } else f }

/-- Takes an empty directory away. -/
def removeDirectory (t : Files) (p : Place) : Except OsError Files :=
  if !(t.names p).isEmpty then .error .notEmpty
  else .ok { t with
    directories := t.directories.filter (· ≠ p), modes := t.modes.filter (·.1 ≠ p) }

/-- A place after what was at `source` has moved to `target`. -/
def moved (source target q : Place) : Place :=
  if source.isPrefixOf q then target ++ q.drop source.length else q

/-- Moves a directory with all that is in it. -/
def moveDirectory (t : Files) (source target : Place) : Files :=
  { t with
    directories := t.directories.map (moved source target)
    files := t.files.map fun f => { f with place := moved source target f.place }
    links := t.links.map fun l => (moved source target l.1, l.2)
    modes := t.modes.map fun m => (moved source target m.1, m.2) }

/-- Moves a file or a symbolic link; a file or link that was at the new place is gone. -/
def moveFile (t : Files) (source target : Place) : Files :=
  if source = target then t
  else
    let t := t.unlink target
    { t with
      files := t.files.map fun f => if f.place = source then { f with place := target } else f
      links := t.links.map fun l => if l.1 = source then (target, l.2) else l }

/-- Gives a file another place. -/
def link (t : Files) (f : File) (target : Place) : Files :=
  { t with files := t.files ++ [{ f with place := target }] }

/-- Makes a symbolic link. -/
def addLink (t : Files) (p : Place) (text : String) : Files :=
  { t with links := t.links ++ [(p, text)] }

/-- What may be done with a directory. -/
def modeOf (t : Files) (p : Place) : Nat := (t.modes.lookup p).getD 0o755

def setMode (t : Files) (p : Place) (mode : Nat) : Files :=
  { t with modes := (p, mode) :: t.modes.filter (·.1 ≠ p) }

/-- Changes what is known of the file of a number. -/
def modifyFile (t : Files) (id : Nat) (change : File → File) : Files :=
  { t with files := t.files.map fun f => if f.id = id then change f else f }

/-- The names below the working directory: a directory ends in a slash and has no content. A link
is listed as what it leads to. -/
def listing (t : Files) : List (String × Option (List UInt8)) :=
  let below (p : Place) : Option String :=
    if home.isPrefixOf p && p ≠ home then some ("/".intercalate (p.drop home.length)) else none
  let linked (p : Place) : Option (String × Option (List UInt8)) :=
    match below p, t.walk true maxLinks [] p with
    | some name, .ok (.directory _) => some (name ++ "/", none)
    | some name, .ok (.file f) => some (name, some f.content)
    | _, _ => none
  (t.directories.filterMap fun p => (below p).map fun name => (name ++ "/", none)) ++
    (t.files.filterMap fun f => (below f.place).map fun name => (name, some f.content)) ++
    t.links.filterMap fun l => linked l.1

end Files

end Testbed.Rehearsal
