import Testbed.Rehearsal.Machine.System
/-!
# The system of a machine

Processes, streams and pipes, and how the system answers what programs ask of it. A process that has
to wait stands still until what it waits for is there: `canGo` tells whether it is. Of the processes
that can go on, the one that has been ready for the longest time takes the next step, and each step
takes a little time.
-/
namespace Testbed.Rehearsal.Machine

/-- What a stream leads to. -/
inductive Vessel
  /-- There is nothing to be read, and what is written is lost. -/
  | nothing
  /-- An endless row of zero bytes, of which `full` takes none back. -/
  | zeros (full : Bool)
  /-- An endless row of bytes in no order. What is written is lost. -/
  | noise
  | file (id : Nat)
  | pipe (number : Nat)
  | directory (place : Place)
  /-- A text that the system makes up. -/
  | made (text : List Char)
  deriving DecidableEq, Repr, Inhabited

structure Stream where
  vessel : Vessel := .nothing
  position : Nat := 0
  readable : Bool := true
  writable : Bool := true
  /-- Whether all is written at the end. -/
  append : Bool := false
  deriving Repr, Inhabited

structure Pipe where
  content : Array UInt8 := #[]
  /-- How much of the content was read. -/
  gone : Nat := 0
  /-- Whether what is written is kept for whoever runs the machine, and never read by a process. -/
  kept : Bool := false
  deriving Repr, Inhabited

/-- How many bytes a pipe holds. -/
def pipeCapacity : Nat := 65536

namespace Pipe

/-- How many bytes can be read. -/
def size (p : Pipe) : Nat := p.content.size - p.gone

/-- How many bytes can be written. -/
def room (p : Pipe) : Nat := pipeCapacity - p.size

def write (p : Pipe) (bytes : List UInt8) : Pipe := { p with content := p.content ++ bytes }

/-- The next bytes, and the pipe without them. What was read is dropped once it is the larger part,
so that reading in small pieces does not move the rest each time. -/
def read (p : Pipe) (count : Nat) : List UInt8 × Pipe :=
  let stop := min (p.gone + count) p.content.size
  let taken := (p.content.extract p.gone stop).toList
  if p.content.size ≤ 2 * stop then
    (taken, { p with content := p.content.extract stop p.content.size, gone := 0 })
  else (taken, { p with gone := stop })

end Pipe

structure Running where
  pid : Nat
  parent : Nat
  group : Nat
  session : Nat
  /-- What is left to be done. -/
  task : Task Nat
  /-- When the next step can be taken. -/
  ready : Nat
  ended : Option ExitStatus := none
  /-- Whether the end was told to the parent. -/
  reaped : Bool := false
  stopped : Bool := false
  /-- The streams by the numbers of their descriptors. -/
  descriptors : List (Nat × Nat) := []
  directory : Place := Files.home
  mask : Nat := 0o022
  ignored : List Nat := []
  caught : List Nat := []
  /-- Signals that came and are looked after. -/
  pending : List Nat := []
  /-- Signals that came while the process stood still. -/
  held : List Nat := []
  name : String := ""

instance : Inhabited Running :=
  ⟨{ pid := 0, parent := 0, group := 0, session := 0, task := .done 0, ready := 0 }⟩

/-- All that a machine knows. -/
structure Kernel where
  files : Files := .empty
  /-- Nanoseconds since the machine was switched on. -/
  clock : Nat := 0
  /-- All processes that there were, by their handles. -/
  processes : Array Running := #[]
  /-- The handles of those that have not ended. -/
  living : List Nat := []
  streams : Array Stream := #[]
  pipes : Array Pipe := #[]
  deriving Inhabited

namespace Kernel

/-- The process id of the first process. -/
def firstPid : Nat := 1000

/-- The first of the descriptors that are closed when another program takes over. -/
def firstPrivate : Nat := 10

/-- The time that a step takes. -/
def pace : Nat := 20000

/-- The time from the start of a program to its first step. -/
def startTime : Nat := 500000

def process (k : Kernel) (n : Nat) : Running := (k.processes[n]?).getD default

def stream (k : Kernel) (n : Nat) : Stream := (k.streams[n]?).getD default

def pipe (k : Kernel) (n : Nat) : Pipe := (k.pipes[n]?).getD default

def update (k : Kernel) (n : Nat) (f : Running → Running) : Kernel :=
  { k with processes := k.processes.modify n f }

/-- The number of the stream that a descriptor of a process stands for. -/
def streamOf? (k : Kernel) (n fd : Nat) : Option Nat := (k.process n).descriptors.lookup fd

/-- Whether some process can write to a pipe, or read from it. -/
def isHeld (k : Kernel) (number : Nat) (writing : Bool) : Bool :=
  k.living.any fun n =>
    (k.process n).descriptors.any fun d =>
      let s := k.stream d.2
      s.vessel = .pipe number && (if writing then s.writable else s.readable)

/-! ## Signals -/

/-- Ends a process. What is left of it is how it ended. Its children go to the first process. -/
def finish (k : Kernel) (n : Nat) (status : ExitStatus) : Kernel :=
  let pid := (k.process n).pid
  let k := k.update n fun r =>
    { r with ended := some status, descriptors := [], task := .done 0, pending := [] }
  { k with
    living := k.living.filter (· ≠ n)
    processes := k.processes.map fun r => if r.parent = pid then { r with parent := 1 } else r }

/-- Lets a signal come to a process. -/
def deliver (k : Kernel) (n signal : Nat) : Kernel :=
  let r := k.process n
  if r.ended.isSome || signal = 0 then k
  else if signal = 9 then k.finish n (.signal 9)
  else if signal = 18 then
    let k := k.update n fun r => { r with stopped := false, held := [] }
    r.held.foldl (fun k signal =>
      let r := k.process n
      if r.ignored.contains signal || r.ended.isSome then k
      else if r.caught.contains signal then
        k.update n fun r => { r with pending := r.pending.filter (· ≠ signal) ++ [signal] }
      else if isHarmless signal then k
      else k.finish n (.signal signal)) k
  else if signal = 19 then k.update n fun r => { r with stopped := true }
  else if r.ignored.contains signal then k
  else if r.stopped then
    k.update n fun r => { r with held := r.held.filter (· ≠ signal) ++ [signal] }
  else if r.caught.contains signal then
    k.update n fun r => { r with pending := r.pending.filter (· ≠ signal) ++ [signal] }
  else if isHarmless signal then k
  else if isStop signal then k.update n fun r => { r with stopped := true }
  else k.finish n (.signal signal)

/-- The processes that a signal is meant for, those among them that have ended but were not waited
for. -/
def targetsOf (k : Kernel) (n : Nat) (target : Int) : List Nat :=
  let own := k.process n
  (List.range k.processes.size).filter fun i =>
    let r := k.process i
    !r.reaped &&
      (if 0 < target then (r.pid : Int) = target
      else if target = 0 then r.group = own.group
      else if target = -1 then i ≠ n
      else (r.group : Int) = -target)

/-! ## Files -/

/-- The directories in which programs are found. -/
def programPlaces : List Place := [["bin"], ["usr", "bin"]]

/-- What the system itself keeps at a place. -/
def devices (k : Kernel) (n : Nat) : List (Place × Vessel) :=
  let stat (name : String) (r : Running) : Place × Vessel :=
    let number (n : Nat) : String := Text.decimal n
    let text := s!"{number r.pid} ({r.name}) R {number r.parent} {number r.group} "
    (["proc", name, "stat"], .made (text ++ s!"{number r.session} 0 -1 4194304 0 0 0 0\n").toList)
  [(["dev", "null"], .nothing), (["dev", "zero"], .zeros false), (["dev", "full"], .zeros true),
   (["dev", "random"], .noise), (["dev", "urandom"], .noise),
   stat "self" (k.process n)] ++
    k.living.map fun i => stat (Text.decimal (k.process i).pid) (k.process i)

/-- The descriptor that a path names. -/
def descriptorAt? (path : String) : Option Nat :=
  match path with
  | "/dev/stdin" => some 0
  | "/dev/stdout" => some 1
  | "/dev/stderr" => some 2
  | _ =>
    let fds := "/dev/fd/".toList
    if Text.startsWith fds path.toList then Text.digits? (path.toList.drop fds.length) else none

/-- Walks a path of a process. `follow` tells whether a symbolic link at its end is followed. -/
def find (k : Kernel) (n : Nat) (path : String) (follow : Bool) : Except OsError Files.Target :=
  k.files.findFrom follow (k.process n).directory (toText path)

/-- What the system keeps at the place that a path leads to. -/
def deviceAt? (k : Kernel) (n : Nat) (path : String) : Option Vessel :=
  let names := ((Text.cutAt '/' path.toList).map String.ofList).filter (· ≠ "")
  if path.toList.head? = some '/' then (k.devices n).lookup names else none

def statusOfFile (k : Kernel) (f : File) : Status :=
  { kind := .file, size := f.content.length, mode := f.mode
    identity := s!"file {Text.decimal f.id}"
    links := (k.files.files.filter (·.id = f.id)).length, time := f.time }

def statusOfDirectory (k : Kernel) (p : Place) : Status :=
  let inside := (k.files.directories.filter fun q => q.dropLast = p && q ≠ []).length
  { kind := .directory, size := 4096, mode := k.files.modeOf p
    identity := "directory /" ++ "/".intercalate p, links := inside + 2, time := 0 }

def statusOfLink (p : Place) (text : String) : Status :=
  { kind := .other, size := (Text.encode text).length, mode := 0o777
    identity := "link /" ++ "/".intercalate p, links := 1, time := 0, target := some (ofText text) }

def statusOfDevice (name : String) : Status :=
  { kind := .other, size := 0, mode := 0o666, identity := name, links := 1, time := 0 }

/-- What is known of the program that a path leads to. -/
def programAt? (isProgram : String → Bool) (path : String) : Option Status :=
  let names := ((Text.cutAt '/' path.toList).map String.ofList).filter (· ≠ "")
  match names.getLast? with
  | some name =>
    if path.toList.head? = some '/' && programPlaces.contains names.dropLast && isProgram name then
      some { kind := .file, size := 1000, mode := 0o755, identity := path, links := 1, time := 0 }
    else none
  | none => none

def statusOfStream (k : Kernel) (s : Stream) : Status :=
  match s.vessel with
  | .file id =>
    match k.files.files.find? (·.id = id) with
    | some f => k.statusOfFile f
    | none => { statusOfDevice s!"file {Text.decimal id}" with kind := .file, links := 0 }
  | .directory p => k.statusOfDirectory p
  | .pipe n => statusOfDevice s!"pipe {Text.decimal n}"
  | .nothing => statusOfDevice "/dev/null"
  | _ => statusOfDevice "device"

/-- What is known of what a path leads to. -/
def status (k : Kernel) (isProgram : String → Bool) (n : Nat) (path : String) (follow : Bool) :
    Except OsError Status :=
  match (descriptorAt? path).bind (k.streamOf? n), k.deviceAt? n path,
    programAt? isProgram path with
  | some s, _, _ => .ok (k.statusOfStream (k.stream s))
  | none, some _, _ => .ok (statusOfDevice path)
  | none, none, some s => .ok s
  | none, none, none =>
    match k.find n path follow with
    | .ok (.directory p) => .ok (k.statusOfDirectory p)
    | .ok (.file f) => .ok (k.statusOfFile f)
    | .ok (.link p text) => .ok (statusOfLink p text)
    | .ok (.absent _ _) => .error .notFound
    | .error e => .error e

/-- The first number from `least` on that is no descriptor. -/
def freeDescriptor (r : Running) (least : Nat) : Nat :=
  ((List.range (r.descriptors.length + 1)).map (· + least)).find?
    (fun fd => !r.descriptors.any (·.1 = fd)) |>.getD least

/-- Gives a process a descriptor for a stream. -/
def addDescriptor (k : Kernel) (n least stream : Nat) : Kernel × Nat :=
  let fd := freeDescriptor (k.process n) least
  (k.update n fun r => { r with descriptors := (fd, stream) :: r.descriptors }, fd)

def addStream (k : Kernel) (s : Stream) : Kernel × Nat :=
  ({ k with streams := k.streams.push s }, k.streams.size)

/-- Opens a stream in a process. -/
def openStream (k : Kernel) (n : Nat) (s : Stream) : Kernel × Nat :=
  let (k, stream) := k.addStream s
  k.addDescriptor n 0 stream

/-- What is opened where a path leads to something: the files then, and the stream. -/
def openPath (k : Kernel) (isProgram : String → Bool) (n : Nat) (path : String) (way : Opening) :
    Except OsError (Files × Stream) :=
  let writes := way ≠ .read
  let base : Stream := { readable := way = .read || way = .both, writable := writes }
  match descriptorAt? path with
  | some fd =>
    match k.streamOf? n fd with
    | some s => .ok (k.files, { k.stream s with position := 0 })
    | none => .error .notFound
  | none =>
    match k.deviceAt? n path with
    | some vessel => .ok (k.files, { base with vessel })
    | none =>
      if (programAt? isProgram path).isSome then .ok (k.files, { base with vessel := .made [] })
      else match k.find n path (way ≠ .create) with
        | .error e => .error e
        | .ok (.link _ _) => .error .alreadyThere
        | .ok (.directory p) =>
          if writes then .error (if way = .create then .alreadyThere else .isADirectory)
          else .ok (k.files, { base with vessel := .directory p })
        | .ok (.file f) =>
          if way = .create then .error .alreadyThere
          else
            let files := if way = .write then k.files.setContent f.id [] k.clock else k.files
            .ok (files, { base with vessel := .file f.id, append := way == Opening.append })
        | .ok (.absent p slash) =>
          if !writes then .error .notFound
          else if slash then .error .isADirectory
          else
            let id := k.files.nextId
            let mask := (k.process n).mask
            let files := (k.files.addFile p []).modifyFile id fun f =>
              { f with mode := 0o666 &&& (0o777 ^^^ mask), time := k.clock }
            .ok (files, { base with vessel := .file id, append := way == Opening.append })

/-- Gives what is at one place another one. -/
def rename (k : Kernel) (source target : Files.Target) : Except OsError Files := do
  let t := k.files
  match source, target with
  | .absent _ _, _ => throw .notFound
  | .directory p, .absent q _ =>
    if p.isPrefixOf q then throw .invalid
    return t.moveDirectory p q
  | .directory p, .directory q =>
    if p = q then return t
    if p.isPrefixOf q then throw .invalid
    return (← t.removeDirectory q).moveDirectory p q
  | .directory _, _ => throw .notADirectory
  | _, .directory _ => throw .isADirectory
  | .file f, .file g => return if g.id = f.id then t else t.moveFile f.place g.place
  | .file f, .link q _ => return t.moveFile f.place q
  | .link p _, .file g => return t.moveFile p g.place
  | .link p _, .link q _ => return t.moveFile p q
  | .file f, .absent q slash => if slash then throw .notADirectory else return t.moveFile f.place q
  | .link p _, .absent q slash => if slash then throw .notADirectory else return t.moveFile p q

/-- Whether the last component of a path is one point or two. -/
def endsInPoints (path : String) : Bool :=
  [".", ".."].contains (((Files.components path).filter (· ≠ "")).getLast?.getD "")

/-- Whether a change is one to what a symbolic link leads to. -/
def followsLinks : Change → Bool
  | .permit _ => true
  | .touch _ => true
  | _ => false

/-- The files after a change to what a path leads to. -/
def change (k : Kernel) (n : Nat) (path : String) (what : Change) : Except OsError Files := do
  let target ← k.find n path (followsLinks what)
  let mask := 0o7777 ^^^ (k.process n).mask
  match what, target with
  | .makeDirectory mode, .absent p _ =>
    let files := { k.files with directories := k.files.directories ++ [p] }
    let mode := mode &&& mask
    return if mode = 0o755 then files else files.setMode p mode
  | .makeDirectory _, _ => throw .alreadyThere
  | .removeDirectory, .directory p =>
    -- a slash behind a symbolic link does not make it a directory that could go
    let bare := String.ofList (path.toList.reverse.dropWhile (· = '/')).reverse
    if let .ok (.link _ _) := k.find n bare false then throw .notADirectory
    if path.toList.reverse.takeWhile (· ≠ '/') = ['.'] then throw .invalid
    k.files.removeDirectory p
  | .removeDirectory, .file _ => throw .notADirectory
  | .removeDirectory, .link _ _ => throw .notADirectory
  | .unlink, .file f => return k.files.unlink f.place
  | .unlink, .link p _ => return k.files.unlink p
  | .unlink, .directory _ => throw .isADirectory
  | .rename other, source =>
    let goal ← k.find n other false
    if [path, other].any endsInPoints then throw .busy
    k.rename source goal
  | .link other, .file f =>
    match ← k.find n other false with
    | .absent q _ => return k.files.link f q
    | _ => throw .alreadyThere
  | .link other, .link _ text =>
    match ← k.find n other false with
    | .absent q _ => return k.files.addLink q text
    | _ => throw .alreadyThere
  | .link _, .directory _ => throw .notPermitted
  | .refer text, .absent p _ =>
    if text.isEmpty then throw .notFound
    return k.files.addLink p (toText text)
  | .refer _, _ => throw .alreadyThere
  | .permit mode, .file f => return k.files.modifyFile f.id ({ · with mode })
  | .permit mode, .directory p => return k.files.setMode p mode
  | .touch time, .file f =>
    return k.files.modifyFile f.id ({ · with time := time.getD k.clock })
  | .touch _, .directory _ => return k.files
  | .touch time, .absent p slash =>
    if slash then throw .notFound
    let id := k.files.nextId
    return (k.files.addFile p []).modifyFile id
      ({ · with mode := 0o666 &&& mask, time := time.getD k.clock })
  | _, _ => throw .notFound

/-! ## Streams -/

/-- The byte at a position of a row in no order: some middle bits of a product. -/
def noiseAt (position : Nat) : Char :=
  Char.ofNat ((position + 1) * 2654435761 % Nat.pow 2 32 / Nat.pow 2 16 % 256)

/-- Reads from a stream that something can be read from. -/
def readStream (k : Kernel) (stream count : Nat) : Kernel × Except OsError (List Char) :=
  let s := k.stream stream
  let goOn (text : List Char) : Kernel × Except OsError (List Char) :=
    ({ k with streams := k.streams.modify stream fun s =>
        { s with position := s.position + text.length } }, .ok text)
  if !s.readable then (k, .error .badDescriptor)
  else match s.vessel with
    | .nothing => (k, .ok [])
    | .zeros _ => (k, .ok (List.replicate count '\x00'))
    | .noise => goOn ((List.range count).map fun i => noiseAt (s.position + i))
    | .directory _ => (k, .error .isADirectory)
    | .made text => goOn ((text.drop s.position).take count)
    | .file id =>
      match k.files.files.find? (·.id = id) with
      | some f => goOn (charsOf ((f.content.drop s.position).take count))
      | none => (k, .ok [])
    | .pipe number =>
      let (taken, p) := (k.pipe number).read count
      ({ k with pipes := k.pipes.set! number p }, .ok (charsOf taken))

/-- A content with some bytes in it from a position on. -/
def overwrite (content bytes : List UInt8) (position : Nat) : List UInt8 :=
  let gap := List.replicate (position - content.length) (0 : UInt8)
  (content ++ gap).take position ++ bytes ++ content.drop (position + bytes.length)

/-- Writes what a stream takes, and tells what is left. -/
def writeStream (k : Kernel) (stream : Nat) (text : List Char) :
    Kernel × Except OsError (List Char) :=
  let s := k.stream stream
  if !s.writable then (k, .error .badDescriptor)
  else match s.vessel with
    | .nothing => (k, .ok [])
    | .noise => (k, .ok [])
    | .zeros full => (k, if full && !text.isEmpty then .error .noSpace else .ok [])
    | .directory _ => (k, .error .badDescriptor)
    | .made _ => (k, .error .denied)
    | .file id =>
      let content := ((k.files.files.find? (·.id = id)).map (·.content)).getD []
      let position := if s.append then content.length else s.position
      let bytes := bytesOf text
      ({ k with
          files := k.files.setContent id (overwrite content bytes position) k.clock
          streams := k.streams.modify stream fun s =>
            { s with position := position + bytes.length } }, .ok [])
    | .pipe number =>
      let p := k.pipe number
      let room := if p.kept then text.length else p.room
      ({ k with pipes := k.pipes.modify number (·.write (bytesOf (text.take room))) },
        .ok (text.drop room))

/-- Gives bytes back to a stream. -/
def unread (k : Kernel) (n fd count : Nat) : Kernel :=
  match k.streamOf? n fd with
  | some stream =>
    match (k.stream stream).vessel with
    | .file _ => { k with streams := k.streams.modify stream fun s =>
        { s with position := s.position - count } }
    | _ => k
  | none => k

/-! ## Waiting -/

/-- The children of a process that it has not been told the end of. -/
def children (k : Kernel) (n : Nat) (child : Option Nat) : List Nat :=
  let pid := (k.process n).pid
  (List.range k.processes.size).filter fun i =>
    let r := k.process i
    r.parent = pid && !r.reaped && child.all (· = r.pid)

/-- Whether a process that waits for a child need not wait any longer. -/
def canStopWaiting (k : Kernel) (n : Nat) (child : Option Nat) (breakable : Bool) : Bool :=
  let candidates := k.children n child
  candidates.isEmpty || candidates.any (fun i => (k.process i).ended.isSome) ||
    (breakable && !(k.process n).pending.isEmpty)

def waitFor (k : Kernel) (n : Nat) (child : Option Nat) : Kernel × Waited :=
  let candidates := k.children n child
  match candidates.find? fun i => (k.process i).ended.isSome with
  | some i =>
    let r := k.process i
    (k.update i fun r => { r with reaped := true }, .ended r.pid (r.ended.getD (.code 0)))
  | none => (k, if candidates.isEmpty then .nobody else .disturbed)

/-- Whether the next step of a process need not wait. -/
def canGo (k : Kernel) (n : Nat) : Bool :=
  let r := k.process n
  let pipeOf (fd : Nat) : Option (Nat × Stream) := do
    let s := k.stream (← k.streamOf? n fd)
    match s.vessel with
    | .pipe number => some (number, s)
    | _ => none
  !r.stopped &&
    match r.task with
    | .ask (.read fd _) _ =>
      match pipeOf fd with
      | some (number, s) =>
        !s.readable || (k.pipe number).size ≠ 0 || !k.isHeld number true
      | none => true
    | .ask (.write fd text) _ =>
      match pipeOf fd with
      | some (number, s) =>
        !s.writable || text.isEmpty || (k.pipe number).kept || !k.isHeld number false ||
          (k.pipe number).room ≠ 0
      | none => true
    | .ask (.wait child breakable) _ => k.canStopWaiting n child breakable
    | _ => true

/-! ## Steps -/

/-- The answer to a request that leaves everything else of the process as it is. -/
def serve (k : Kernel) (isProgram : String → Bool) (n : Nat) : (c : Call) → Kernel × Option c.Answer
  | .fork => (k, none)
  | .exit _ => (k, none)
  | .write _ _ => (k, none)
  | .sleep _ => (k, none)
  | .become name =>
    (k.update n fun r =>
      { r with
        name, caught := [], ready := r.ready + startTime
        descriptors := r.descriptors.filter (·.1 < firstPrivate) }, some ())
  | .read fd count =>
    match k.streamOf? n fd with
    | some s =>
      let (k, answer) := k.readStream s count
      (k, some answer)
    | none => (k, some (.error .badDescriptor))
  | .unread fd count => (k.unread n fd count, some ())
  | .open path way =>
    match k.openPath isProgram n path way with
    | .ok (files, s) =>
      let (k, fd) := { k with files }.openStream n s
      (k, some (.ok fd))
    | .error e => (k, some (.error e))
  | .close fd =>
    match k.streamOf? n fd with
    | some _ =>
      (k.update n fun r => { r with descriptors := r.descriptors.filter (·.1 ≠ fd) }, some (.ok ()))
    | none => (k, some (.error .badDescriptor))
  | .copyTo fd target =>
    match k.streamOf? n fd with
    | some s =>
      (k.update n fun r =>
        { r with descriptors := (target, s) :: r.descriptors.filter (·.1 ≠ target) },
        some (.ok ()))
    | none => (k, some (.error .badDescriptor))
  | .copyAbove fd least =>
    match k.streamOf? n fd with
    | some s =>
      let (k, copy) := k.addDescriptor n least s
      (k, some (.ok copy))
    | none => (k, some (.error .badDescriptor))
  | .pipe =>
    let number := k.pipes.size
    let k := { k with pipes := k.pipes.push {} }
    let (k, source) := k.openStream n { vessel := .pipe number, writable := false }
    let (k, sink) := k.openStream n { vessel := .pipe number, readable := false }
    (k, some (source, sink))
  | .wait child _ =>
    let (k, waited) := k.waitFor n child
    (k, some waited)
  | .reap =>
    match k.waitFor n none with
    | (k, .ended pid status) => (k, some (some (pid, status)))
    | (k, _) => (k, some none)
  | .kill target signal =>
    match k.targetsOf n target with
    | [] => (k, some (.error .noProcess))
    | targets => (targets.foldl (fun k i => k.deliver i signal) k, some (.ok ()))
  | .arrange signal d =>
    (k.update n fun r =>
      { r with
        ignored := r.ignored.filter (· ≠ signal) ++ (if d = .ignored then [signal] else [])
        caught := r.caught.filter (· ≠ signal) ++ (if d = .caught then [signal] else []) },
      some ())
  | .disposition signal =>
    let r := k.process n
    (k, some (if r.ignored.contains signal then .ignored
      else if r.caught.contains signal then .caught else .standard))
  | .caught => (k.update n fun r => { r with pending := [] }, some (k.process n).pending)
  | .now => (k, some k.clock)
  | .status path => (k, some (k.status isProgram n path true))
  | .statusOfName path => (k, some (k.status isProgram n path false))
  | .statusOf fd =>
    match k.streamOf? n fd with
    | some s => (k, some (.ok (k.statusOfStream (k.stream s))))
    | none => (k, some (.error .badDescriptor))
  | .list path =>
    match k.find n path true with
    | .ok (.directory p) => (k, some (.ok ((k.files.names p).map ofText)))
    | .ok (.file _) => (k, some (.error .notADirectory))
    | .ok _ => (k, some (.error .notFound))
    | .error e => (k, some (.error e))
  | .change path what =>
    match k.change n path what with
    | .ok files => ({ k with files }, some (.ok ()))
    | .error e => (k, some (.error e))
  | .enter path =>
    match k.find n path true with
    | .ok (.directory p) => (k.update n fun r => { r with directory := p }, some (.ok ()))
    | .ok (.file _) => (k, some (.error .notADirectory))
    | .ok _ => (k, some (.error .notFound))
    | .error e => (k, some (.error e))
  | .directory => (k, some ("/" ++ ofText ("/".intercalate (k.process n).directory)))
  | .mask mode =>
    (k.update n fun r => { r with mask := mode.getD r.mask }, some (k.process n).mask)
  | .self => (k, some ((k.process n).pid, (k.process n).parent))
  | .lead session =>
    (k.update n fun r =>
      { r with group := r.pid, session := if session then r.pid else r.session }, some ())

/-- Goes on with what is left of the task of a process. -/
def goOn (k : Kernel) (n : Nat) (task : Task Nat) : Kernel := k.update n ({ · with task })

/-- Doubles a process. -/
def forked (k : Kernel) (n : Nat) (next : Option Nat → Task Nat) : Kernel :=
  let handle := k.processes.size
  let pid := firstPid + handle
  let r := k.process n
  let child := { r with pid, parent := r.pid, task := next none, pending := [], held := [] }
  let k := { k with processes := k.processes.push child, living := k.living ++ [handle] }
  k.goOn n (next (some pid))

/-- Writes for a process. A pipe that nobody reads costs it its life, unless it takes care. -/
def written (k : Kernel) (n fd : Nat) (text : List Char) (next : Except OsError Unit → Task Nat) :
    Kernel :=
  match k.streamOf? n fd with
  | none => k.goOn n (next (.error .badDescriptor))
  | some s =>
    let broken := match (k.stream s).vessel with
      | .pipe number => !(k.pipe number).kept && !k.isHeld number false && !text.isEmpty
      | _ => false
    if broken then (k.goOn n (next (.error .brokenPipe))).deliver n 13
    else match k.writeStream s text with
      | (k, .error e) => k.goOn n (next (.error e))
      | (k, .ok []) => k.goOn n (next (.ok ()))
      | (k, .ok rest) => k.goOn n (.ask (.write fd rest) next)

/-- A machine at the moment of the next step of a process. -/
def due (k : Kernel) (n : Nat) : Kernel :=
  let now := max k.clock (k.process n).ready
  { k with clock := now }.update n ({ · with ready := now + pace })

/-- Lets a process take a step. -/
def step (k : Kernel) (isProgram : String → Bool) (n : Nat) : Kernel :=
  let k := k.due n
  match (k.process n).task with
  | .done code => k.finish n (.code (code % 256))
  | .ask (.exit code) _ => k.finish n (.code (code % 256))
  | .ask .fork next => k.forked n next
  | .ask (.sleep nanos) next =>
    (k.update n fun r => { r with ready := r.ready + nanos }).goOn n (next ())
  | .ask (.write fd text) next => k.written n fd text next
  | .ask c next =>
    match k.serve isProgram n c with
    | (k, some answer) => k.goOn n (next answer)
    | (k, none) => k

/-- The process whose step is the next one, and the time at which it can be taken. -/
def next? (k : Kernel) : Option (Nat × Nat) :=
  k.living.foldl (fun best n =>
    let time := (k.process n).ready
    if best.all (fun b => time < b.2) && k.canGo n then some (n, time) else best) none

/-- Takes the steps whose time comes until `limit`, unless there is nothing to be done any more. -/
def run (isProgram : String → Bool) (limit : Option Nat) (enough : Kernel → Bool) :
    Nat → Kernel → Kernel
  | 0, k => k
  | fuel + 1, k =>
    if enough k then k
    else match k.next? with
      | some (n, time) =>
        if limit.any (· < max k.clock time) then k
        else run isProgram limit enough fuel (k.step isProgram n)
      | none => k

end Kernel

end Testbed.Rehearsal.Machine
