import Testbed.Process.Child
import Testbed.Program
import Testbed.Rehearsal.Files
/-!
# What programs ask of a machine

The programs that run on a machine are values: each of them asks the system for what it needs, from
reading a file to starting another process, and goes on with the answer. A process that forks is
there twice afterwards, and its program goes on in both with different answers.

Within a machine a text is a row of bytes: each of its characters stands for one byte. `ofText` and
`toText` lead there and back.
-/
namespace Testbed.Rehearsal.Machine

/-! ## Texts of bytes -/

/-- Bytes as characters. -/
def charsOf (bytes : List UInt8) : List Char := bytes.map fun b => Char.ofNat b.toNat

/-- The bytes that characters stand for. -/
def bytesOf (chars : List Char) : List UInt8 := chars.map fun c => UInt8.ofNat c.toNat

/-- A text as it is written in bytes. -/
def ofText (s : String) : String := String.ofList (charsOf (Text.encode s))

/-- The text that bytes write. -/
def toText (s : String) : String := Text.decode (bytesOf s.toList)

/-! ## Requests -/

/-- How a file is opened. All ways but the first make the file if it is not there. -/
inductive Opening
  | read
  /-- What the file held is lost. -/
  | write
  | append
  | both
  /-- The file must not be there before. -/
  | create
  deriving DecidableEq, Repr

/-- What a path leads to. -/
structure Status where
  kind : PathKind
  size : Nat
  mode : Nat
  /-- Two paths lead to the same thing if these are equal. -/
  identity : String
  links : Nat
  /-- When it was changed last. -/
  time : Int
  /-- What it names, if it is a symbolic link. -/
  target : Option String := none
  deriving DecidableEq, Repr

/-- What a process does about a signal. -/
inductive Disposition
  /-- What the signal is meant for, mostly the end of the process. -/
  | standard
  | ignored
  /-- The program looks after it. -/
  | caught
  deriving DecidableEq, Repr

/-- What comes of waiting for a child. -/
inductive Waited
  | ended (pid : Nat) (status : ExitStatus)
  /-- There is no such child. -/
  | nobody
  /-- A signal came that the program looks after. -/
  | disturbed
  deriving DecidableEq, Repr

/-- A change to what a path leads to. -/
inductive Change
  | makeDirectory (mode : Nat)
  | removeDirectory
  | unlink
  | rename (target : String)
  | link (target : String)
  /-- Makes a symbolic link that names something. -/
  | refer (text : String)
  | permit (mode : Nat)
  /-- Makes a file, or gives it a time: that of the clock unless one is told. -/
  | touch (time : Option Int)
  deriving DecidableEq, Repr

inductive Call
  /-- Doubles the process. -/
  | fork
  | exit (code : Nat)
  /-- Another program takes the place of this one: no signal is looked after any more. -/
  | become (name : String)
  /-- Bytes of a stream, some at least unless it is at its end. -/
  | read (fd count : Nat)
  | write (fd : Nat) (text : List Char)
  /-- Gives bytes back that were read, if the stream allows it. -/
  | unread (fd count : Nat)
  | open (path : String) (way : Opening)
  | close (fd : Nat)
  /-- Makes a descriptor stand for what another one stands for. -/
  | copyTo (fd target : Nat)
  /-- A new descriptor, not below a number, for what another one stands for. -/
  | copyAbove (fd least : Nat)
  | pipe
  /-- Waits for a child. `breakable` lets a signal disturb it. -/
  | wait (child : Option Nat) (breakable : Bool)
  /-- A child that has ended, without waiting. -/
  | reap
  | kill (target : Int) (signal : Nat)
  | arrange (signal : Nat) (d : Disposition)
  | disposition (signal : Nat)
  /-- The signals that came and are looked after. -/
  | caught
  | sleep (nanos : Nat)
  | now
  | status (path : String)
  /-- That of a symbolic link itself, if there is one at the end of the path. -/
  | statusOfName (path : String)
  | statusOf (fd : Nat)
  | list (path : String)
  | change (path : String) (what : Change)
  | enter (path : String)
  /-- The way from the root to the working directory. -/
  | directory
  /-- Sets what is withheld from new files. -/
  | mask (mode : Option Nat)
  | self
  /-- Makes the process the first one of a group of its own, or of a session of its own. -/
  | lead (session : Bool)

/-- The numbers are those of descriptors, processes or modes, as the request asks. -/
abbrev Call.Answer : Call → Type
  | .fork => Option Nat
  | .exit _ => Empty
  | .become _ => Unit
  | .read _ _ => Except OsError (List Char)
  | .write _ _ => Except OsError Unit
  | .unread _ _ => Unit
  | .open _ _ => Except OsError Nat
  | .close _ => Except OsError Unit
  | .copyTo _ _ => Except OsError Unit
  | .copyAbove _ _ => Except OsError Nat
  | .pipe => Nat × Nat
  | .wait _ _ => Waited
  | .reap => Option (Nat × ExitStatus)
  | .kill _ _ => Except OsError Unit
  | .arrange _ _ => Unit
  | .disposition _ => Disposition
  | .caught => List Nat
  | .sleep _ => Unit
  | .now => Nat
  | .status _ => Except OsError Status
  | .statusOfName _ => Except OsError Status
  | .statusOf _ => Except OsError Status
  | .list _ => Except OsError (List String)
  | .change _ _ => Except OsError Unit
  | .enter _ => Except OsError Unit
  | .directory => String
  | .mask _ => Nat
  | .self => Nat × Nat
  | .lead _ => Unit

def interface : Interface := ⟨Call, Call.Answer⟩

/-- What runs on a machine. -/
abbrev Task (α : Type) := Program interface α

/-- Asks the system. -/
def ask (c : Call) : Task c.Answer := Program.request (I := interface) c

/-- The variables that programs hand on. -/
abbrev Environment := List (String × String)

/-- Puts the program at a path in the place of the one that runs, with its arguments, the name that
it goes by first. There is an answer only if that cannot be done. -/
abbrev Launch := (path : String) → Environment → List String → Task OsError

/-- Where programs are looked for. -/
def standardSearch : String :=
  "/usr/local/sbin:/usr/local/bin:/usr/sbin:/usr/bin:/sbin:/bin"

/-- The shell. -/
def shellPath : String := "/bin/sh"

/-- The paths that a program may be found at: directories to search are separated by colons. -/
def candidates (search name : String) : List String :=
  if name.toList.contains '/' then [name]
  else (Text.cutAt ':' search.toList).map fun dir =>
    if dir.isEmpty then name else String.ofList dir ++ "/" ++ name

/-- Puts the first of some programs that can be run in the place of the one that runs. A file that
is no program is a script for the shell. -/
def Launch.firstOf (launch : Launch) (environment : Environment) (arguments : List String)
    (denied : Bool) : List String → Task OsError
  | [] => return if denied then .denied else .notFound
  | path :: rest => do
    match ← launch path environment arguments with
    | .denied => launch.firstOf environment arguments true rest
    | .notFound => launch.firstOf environment arguments denied rest
    | .notADirectory => launch.firstOf environment arguments denied rest
    | .badFormat => launch shellPath environment ("sh" :: path :: arguments.tail)
    | e => return e

/-- Puts a program in the place of the one that runs, by its name. -/
def Launch.byName (launch : Launch) (environment : Environment) (arguments : List String) :
    Task OsError :=
  let name := arguments.head?.getD ""
  if name.isEmpty then return .notFound
  else launch.firstOf environment arguments false
    (candidates ((environment.lookup "PATH").getD "/bin:/usr/bin") name)

/-! ## Signals -/

def signals : List (String × Nat) :=
  [("HUP", 1), ("INT", 2), ("QUIT", 3), ("ILL", 4), ("TRAP", 5), ("ABRT", 6), ("BUS", 7),
   ("FPE", 8), ("KILL", 9), ("USR1", 10), ("SEGV", 11), ("USR2", 12), ("PIPE", 13), ("ALRM", 14),
   ("TERM", 15), ("STKFLT", 16), ("CHLD", 17), ("CONT", 18), ("STOP", 19), ("TSTP", 20),
   ("TTIN", 21), ("TTOU", 22), ("URG", 23), ("XCPU", 24), ("XFSZ", 25), ("VTALRM", 26),
   ("PROF", 27), ("WINCH", 28), ("POLL", 29), ("PWR", 30), ("SYS", 31)]

/-- The number of a signal by its name or number. The number zero stands for none. -/
def signalOf? (text : String) : Option Nat :=
  match Text.digits? text.toList with
  | some n => if n ≤ 64 then some n else none
  | none =>
    let name := text.toList.map Char.toUpper
    let name := if name.take 3 = ['S', 'I', 'G'] then name.drop 3 else name
    if name = "EXIT".toList then some 0 else signals.lookup (String.ofList name)

def signalName (n : Nat) : String :=
  if n = 0 then "EXIT" else ((signals.find? (·.2 = n)).map (·.1)).getD (Text.decimal n)

/-- What is said of a process that a signal has ended. -/
def signalWords : Nat → String
  | 1 => "Hangup"
  | 2 => "Interrupt"
  | 3 => "Quit"
  | 4 => "Illegal instruction"
  | 5 => "Trace/breakpoint trap"
  | 6 => "Aborted"
  | 7 => "Bus error"
  | 8 => "Floating point exception"
  | 9 => "Killed"
  | 10 => "User defined signal 1"
  | 11 => "Segmentation fault"
  | 12 => "User defined signal 2"
  | 13 => "Broken pipe"
  | 14 => "Alarm clock"
  | 15 => "Terminated"
  | n => s!"Signal {Text.decimal n}"

/-- Whether a process takes no notice of a signal unless it asks for it. -/
def isHarmless (signal : Nat) : Bool := [0, 17, 18, 23, 28].contains signal

/-- Whether a signal makes a process stand still. -/
def isStop (signal : Nat) : Bool := [19, 20, 21, 22].contains signal

end Testbed.Rehearsal.Machine
