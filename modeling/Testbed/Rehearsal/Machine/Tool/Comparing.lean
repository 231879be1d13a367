import Testbed.Rehearsal.Machine.Tool.Difference
import Testbed.Rehearsal.Machine.Tool.Places
/-!
# Tools that compare

Programs that tell whether two files are the same, and in what they differ: byte by byte, or line by
line.
-/
namespace Testbed.Rehearsal.Machine.Tool

open Act

/-- Complains of wrong use, and names the tool in every line. -/
def misused {α : Type} (text : String) : Act α := do
  complain text
  let name ← name
  fail s!"Try '{name} --help' for more information." 2

/-! ## Byte by byte -/

/-- A byte as `cmp` shows it. -/
def shownByte (c : Char) : String :=
  let low (n : Nat) : String :=
    if n < 32 then String.ofList ['^', Char.ofNat (n + 64)] else if n = 127 then "^?"
    else (Char.ofNat n).toString
  if 128 ≤ c.toNat then "M-" ++ low (c.toNat - 128) else low c.toNat

/-- What two texts have at the first place where they differ: how many bytes and how many lines are
before it. -/
def firstDifference : List Char → List Char → Nat → Nat → Nat × Nat × Option (Char × Char)
  | a :: as, b :: bs, n, lines =>
    if a = b then firstDifference as bs (n + 1) (if a = '\n' then lines + 1 else lines)
    else (n, lines, some (a, b))
  | _, _, n, lines => (n, lines, none)

/-- All places where two texts differ. -/
def differences : List Char → List Char → Nat → List (Nat × Char × Char)
  | a :: as, b :: bs, n =>
    if a = b then differences as bs (n + 1) else (n, a, b) :: differences as bs (n + 1)
  | _, _, _ => []

def cmpGrammar : Grammar where
  kinds := [⟨'b', "print-bytes", .nothing⟩, ⟨'i', "ignore-initial", .argument⟩,
    ⟨'l', "verbose", .nothing⟩, ⟨'n', "bytes", .argument⟩, ⟨'s', "quiet", .nothing⟩,
    ⟨'s', "silent", .nothing⟩]
  status := 2
  named := true

def cmp : Tool := fun arguments => do
  let (chosen, operands) ← cmpGrammar.all arguments
  let number (what : String) (text : String) : Act Nat :=
    match sized? text.toList with
    | some n => return n
    | none => misused s!"invalid {what} value {inQuotes text}"
  let most ← match chosen.text? 'n' with
    | some text => some <$> number "--bytes" text
    | none => pure none
  let (skip, skip') ← match chosen.text? 'i' with
    | none => pure (0, 0)
    | some text =>
      match Text.cutAt ':' text.toList with
      | [one, other] => do
        let n ← number "--ignore-initial" (String.ofList one)
        pure (n, ← number "--ignore-initial" (String.ofList other))
      | _ => do
        let n ← number "--ignore-initial" text
        pure (n, n)
  let (first, second, more) ← match operands with
    | [] => do
      let self ← name
      misused s!"missing operand after {inQuotes self}"
    | [first] => pure (first, "-", [])
    | first :: second :: more => pure (first, second, more)
  let (skip, skip') ← match more with
    | [] => pure (skip, skip')
    | [one] => do pure (← number "--ignore-initial" one, skip')
    | [one, other] => do
      let n ← number "--ignore-initial" one
      pure (n, ← number "--ignore-initial" other)
    | _ :: _ :: extra :: _ => misused s!"extra operand {inQuotes extra}"
  let quiet := chosen.has 's'
  let content (path : String) : Act (List Char) := do
    match ← contentOf path with
    | .ok text => return text
    | .error e => if quiet && e ≠ .isADirectory then quit 2 else fail s!"{path}: {e.words.1}" 2
  let opened (path : String) : Act Unit := do
    unless path = "-" do
      match ← sys (.open path .read) with
      | .ok fd =>
        let _ ← sys (.close fd)
      | .error e => if quiet then quit 2 else fail s!"{path}: {e.words.1}" 2
  opened first
  opened second
  let a := (← content first).drop skip
  let b := (← content second).drop skip'
  let (a, b) := match most with
    | some n => (a.take n, b.take n)
    | none => (a, b)
  if a = b then quit 0
  if quiet then quit 1
  let (n, lines, found) := firstDifference a b 0 0
  let decimal (n : Nat) : String := Text.decimal n
  let ends : Act Unit := do
    let (name, text) := if a.length < b.length then (first, a) else (second, b)
    if text.isEmpty then complain s!"EOF on {name} which is empty"
    else if chosen.has 'l' then complain s!"EOF on {name} after byte {decimal text.length}"
    else
      let count := text.count '\n'
      let place := if text.getLast? = some '\n' then s!"line {decimal count}"
        else s!"in line {decimal (count + 1)}"
      complain s!"EOF on {name} after byte {decimal text.length}, {place}"
  if chosen.has 'l' then
    if a.length ≠ b.length then ends
    let found := differences a b 1
    let last := found.foldl (fun w d => max w d.1) 0
    let width := (Text.decimal (if a.length = b.length then max last a.length else last)).length
    for (n, c, d) in found do
      let (left, right) := (toRight 3 (Mode.octal 1 c.toNat), toRight 3 (Mode.octal 1 d.toNat))
      let place := toRight width (decimal n)
      if chosen.has 'b' then
        let shown := shownByte c
        let blanks := String.ofList (List.replicate (4 - shown.length) ' ')
        say s!"{place} {left} {shown}{blanks} {right} {shownByte d}\n"
      else say s!"{place} {left} {right}\n"
  else
    match found with
    | none => ends
    | some (c, d) =>
      let place := s!"{decimal (n + 1)}, line {decimal (lines + 1)}"
      if chosen.has 'b' then
        let (left, right) := (toRight 3 (Mode.octal 1 c.toNat), toRight 3 (Mode.octal 1 d.toNat))
        let bytes := s!"is {left} {shownByte c} {right} {shownByte d}"
        say s!"{first} {second} differ: byte {place} {bytes}\n"
      else say s!"{first} {second} differ: char {place}\n"
  quit 1

/-! ## Line by line -/

open Difference (Hunk Line)

/-- How differences are shown. -/
inductive Style
  | normal
  | unified (context : Nat)
  | context (context : Nat)
  | script
  | counts
  /-- Only whether there are any. -/
  | brief
  deriving DecidableEq, Repr

/-- What `diff` was asked for. -/
structure Comparison where
  style : Style := .normal
  tells : Bool := false
  deep : Bool := false
  /-- Whether a file that is not there counts as an empty one. -/
  lenient : Bool := false
  anyCase : Bool := false
  noBlanks : Bool := false
  fewBlanks : Bool := false
  noTrail : Bool := false
  noEmpty : Bool := false
  binary : Bool := false
  labels : List String := []
  /-- The options as they were given. -/
  options : List String := []

namespace Comparison

/-- A line without what is of no interest. -/
def key (c : Comparison) (line : Line) : Line :=
  let isBlank (c : Char) : Bool := c = ' ' || ('\t' ≤ c && c ≤ '\r' && c ≠ '\n')
  let ended := line.getLast? = some '\n'
  let body := if ended then line.dropLast else line
  let cutEnd (row : Line) : Line := (row.reverse.dropWhile isBlank).reverse
  let body := if c.noBlanks then body.filter (!isBlank ·)
    else if c.fewBlanks then
      let (row, _) := (cutEnd body).foldl (fun (row, blank) d =>
        if isBlank d then (if blank then row else ' ' :: row, true) else (d :: row, false))
        ([], false)
      row.reverse
    else if c.noTrail then cutEnd body else body
  let body := if c.anyCase then body.map Char.toLower else body
  let loose := c.noBlanks || c.fewBlanks || c.noTrail
  if ended || loose then body ++ ['\n'] else body

/-- How many lines are shown around differences. -/
def near (c : Comparison) : Nat :=
  match c.style with
  | .unified n => n
  | .context n => n
  | _ => 0

/-- Lines with something in front of each. One that has no end is pointed out. -/
def shown (mark : String) (lines : Array Line) (start stop : Nat) : List Char :=
  (lines.extract start stop).toList.flatMap fun line =>
    mark.toList ++
      if line.getLast? = some '\n' then line else line ++ "\n\\ No newline at end of file\n".toList

/-- A range of lines as `diff` writes it. An empty one is known by the line before it. -/
def range (start stop : Nat) : String :=
  if stop ≤ start + 1 then Text.decimal stop
  else s!"{Text.decimal (start + 1)},{Text.decimal stop}"

def normalHunk (a b : Array Line) (h : Hunk) : List Char :=
  let letter := if h.deletes && h.inserts then "c" else if h.deletes then "d" else "a"
  s!"{range h.start h.stop}{letter}{range h.newStart h.newStop}\n".toList ++
    shown "< " a h.start h.stop ++ (if letter = "c" then "---\n".toList else []) ++
    shown "> " b h.newStart h.newStop

/-- Differences that are so close to one another that they are shown together. -/
def together (context : Nat) : List Hunk → List (List Hunk)
  | [] => []
  | h :: rest =>
    match together context rest with
    | (next :: group) :: groups =>
      if next.start - h.stop ≤ 2 * context then (h :: next :: group) :: groups
      else [h] :: (next :: group) :: groups
    | groups => [h] :: groups

/-- A range of lines in a unified hunk. -/
def unifiedRange (start stop : Nat) : String :=
  if stop = start + 1 then Text.decimal stop
  else if stop = start then s!"{Text.decimal start},0"
  else s!"{Text.decimal (start + 1)},{Text.decimal (stop - start)}"

/-- The part of a text that is shown around some differences. -/
def around (context start stop size : Nat) : Nat × Nat :=
  (start - context, min size (stop + context))

def unifiedGroup (a b : Array Line) (context : Nat) (group : List Hunk) : List Char :=
  match group.head?, group.getLast? with
  | some h, some l =>
    let (start, stop) := around context h.start l.stop a.size
    let (newStart, newStop) := (h.newStart - (h.start - start), l.newStop + (stop - l.stop))
    let head := s!"@@ -{unifiedRange start stop} +{unifiedRange newStart newStop} @@\n"
    let (body, at_) := group.foldl (fun (row, here) h =>
      (row ++ shown " " a here h.start ++ shown "-" a h.start h.stop ++
        shown "+" b h.newStart h.newStop, h.stop)) (([] : List Char), start)
    head.toList ++ body ++ shown " " a at_ stop
  | _, _ => []

def contextGroup (a b : Array Line) (context : Nat) (group : List Hunk) : List Char :=
  match group.head?, group.getLast? with
  | some h, some l =>
    let (start, stop) := around context h.start l.stop a.size
    let (newStart, newStop) := (h.newStart - (h.start - start), l.newStop + (stop - l.stop))
    let side (lines : Array Line) (start stop : Nat) (mark : String)
        (of : Hunk → Nat × Nat) : List Char :=
      let (body, at_) := group.foldl (fun (row, here) h =>
        let (first, last) := of h
        let sign := if h.deletes && h.inserts then "! " else mark
        (row ++ shown "  " lines here first ++ shown sign lines first last, last))
        (([] : List Char), start)
      body ++ shown "  " lines at_ stop
    "***************\n".toList ++ s!"*** {range start stop} ****\n".toList ++
      (if group.any Hunk.deletes then side a start stop "- " fun h => (h.start, h.stop) else []) ++
      s!"--- {range newStart newStop} ----\n".toList ++
      (if group.any Hunk.inserts then side b newStart newStop "+ " fun h => (h.newStart, h.newStop)
        else [])
  | _, _ => []

/-- A command for the line editor, from the end of the text on. -/
def scriptHunk (b : Array Line) (h : Hunk) : List Char :=
  let letter := if h.deletes && h.inserts then "c" else if h.deletes then "d" else "a"
  s!"{range h.start h.stop}{letter}\n".toList ++
    if h.inserts then
      ((b.extract h.newStart h.newStop).toList.flatMap fun line =>
        if line.getLast? = some '\n' then line else line ++ ['\n']) ++ ".\n".toList
    else []

def countsHunk (b : Array Line) (h : Hunk) : List Char :=
  let decimal (n : Nat) : String := Text.decimal n
  (if h.deletes then s!"d{decimal (h.start + 1)} {decimal (h.stop - h.start)}\n".toList else []) ++
    if h.inserts then
      s!"a{decimal h.stop} {decimal (h.newStop - h.newStart)}\n".toList ++
        (b.extract h.newStart h.newStop).toList.flatten
    else []

/-- Shows the differences of two texts. -/
def render (c : Comparison) (heads : String × String) (a b : Array Line) (hunks : List Hunk) :
    List Char :=
  match c.style with
  | .normal => hunks.flatMap (normalHunk a b)
  | .unified n =>
    s!"--- {heads.1}\n+++ {heads.2}\n".toList ++ (together n hunks).flatMap (unifiedGroup a b n)
  | .context n =>
    s!"*** {heads.1}\n--- {heads.2}\n".toList ++ (together n hunks).flatMap (contextGroup a b n)
  | .script => hunks.reverse.flatMap (scriptHunk b)
  | .counts => hunks.flatMap (countsHunk b)
  | .brief => []

/-- What is compared: a name and, if it is there, what is known of it. -/
structure Side where
  path : String
  found : Except OsError Status

/-- The name of a file and its time, as they stand above its differences. -/
def head (c : Comparison) (index : Nat) (side : Side) : Act String := do
  match c.labels[index]? with
  | some label => return label
  | none =>
    let time ← match side.found with
      | .ok s => pure s.time
      | .error _ => pure (machineTime 0)
    return side.path ++ "\t" ++ dateText (worldTime time) 100 "%Y-%m-%d %H:%M:%S.%N %z".toList

/-- Compares two files. The result is zero if they are the same, one if not. -/
def files (c : Comparison) (title : Option String) (first second : Side) : Act Nat := do
  let content (side : Side) : Act (Except OsError (List Char)) :=
    match side.found with
    | .error _ => return .ok []
    | .ok _ => contentOf side.path
  match ← content first, ← content second with
  | .error e, _ =>
    complain s!"{first.path}: {e.words.1}"
    return 2
  | _, .error e =>
    complain s!"{second.path}: {e.words.1}"
    return 2
  | .ok text, .ok text' =>
    let a := (wholeLines text).toArray
    let b := (wholeLines text').toArray
    let isBinary := !c.binary && (text.contains '\x00' || text'.contains '\x00')
    let hunks := if text = text' then []
      else if isBinary then [⟨0, 1, 0, 1⟩]
      else Difference.find c.key c.near a b
    let isVoid (lines : Array Line) (start stop : Nat) : Bool :=
      (lines.extract start stop).toList.all fun line => line = ['\n'] || line.isEmpty
    let hunks := if c.noEmpty && !isBinary then hunks.filter fun h =>
        !(isVoid a h.start h.stop && isVoid b h.newStart h.newStop) else hunks
    if hunks.isEmpty then
      if c.tells then say s!"Files {first.path} and {second.path} are identical\n"
      return 0
    else if c.style = .brief then
      say s!"Files {first.path} and {second.path} differ\n"
      return 1
    else if isBinary then
      say s!"Binary files {first.path} and {second.path} differ\n"
      return 1
    else
      if let some title := title then say s!"{title}\n"
      put 1 (c.render (← c.head 0 first, ← c.head 1 second) a b hunks)
      let cutShort : Bool := c.style = .script &&
        (text'.getLast?.any (· ≠ '\n') || text.getLast?.any (· ≠ '\n'))
      if cutShort then
        for (side, text) in [(first, text), (second, text')] do
          if text.getLast?.any (· ≠ '\n') then
            complain s!"{side.path}: No newline at end of file\n"
        return 2
      return 1

/-- The kind of a thing, in words. -/
def kindText (s : Status) : String := kindWords s

/-- Compares two things, whatever they are. `inside` tells whether they were found in
directories. -/
def compare (c : Comparison) : Nat → (nested : Bool) → String → String → Act Nat
  | 0, _, _, _ => return 0
  | fuel + 1, nested, one, other => do
    let look (path : String) : Act Side := do
      if path = "-" then return ⟨path, ← sys (.statusOf 0)⟩ else return ⟨path, ← sys (.status path)⟩
    let a ← look one
    let b ← look other
    let absent (side other : Side) : Bool :=
      c.lenient && other.found.toOption.isSome &&
        match side.found with
        | .error .notFound => true
        | _ => false
    let fails (side other : Side) : Act Bool := do
      match side.found with
      | .error e =>
        if absent side other then return false
        complain s!"{side.path}: {e.words.1}"
        return true
      | .ok _ => return false
    let failed ← fails a b
    let failed' ← fails b a
    if failed || failed' then return 2
    let isDir (side other : Side) : Bool :=
      match side.found, other.found with
      | .ok s, _ => s.kind = .directory
      | .error _, .ok s => s.kind = .directory
      | .error _, .error _ => false
    match isDir a b, isDir b a with
    | false, false =>
      let title := if nested then
          some (Text.join " " (["diff"] ++ c.options ++ [shownName one, shownName other]))
        else none
      c.files title a b
    | true, true =>
      if nested && !c.deep then
        say s!"Common subdirectories: {one} and {other}\n"
        return 0
      let namesOf (side : Side) : Act (List String) := do
        match side.found with
        | .ok _ => return ((← sys (.list side.path)).toOption).getD []
        | .error _ => return []
      let names ← namesOf a
      let names' ← namesOf b
      let all := ((names ++ names').eraseDups).mergeSort fun x y => x ≤ y
      let mut status := 0
      for entry in all do
        let (here, there) := (names.contains entry, names'.contains entry)
        if (here && there) || c.lenient then
          status := max status (← compare c fuel true (inside one entry) (inside other entry))
        else
          let dir := if here then one else other
          say s!"Only in {dir}: {entry}\n"
          status := max status 1
      return status
    | dir, _ =>
      if nested then
        let words (side : Side) : String :=
          match side.found with
          | .ok s => kindText s
          | .error _ => "regular empty file"
        say s!"File {one} is a {words a} while file {other} is a {words b}\n"
        return 1
      else
        let base (path : String) : String := lastComponent path
        if dir then compare c fuel false (inside one (base other)) other
        else compare c fuel false one (inside other (base one))

end Comparison

def diffGrammar : Grammar where
  kinds := [⟨'q', "brief", .nothing⟩, ⟨'s', "report-identical-files", .nothing⟩,
    ⟨'u', "", .nothing⟩, ⟨'U', "unified", .maybe⟩, ⟨'c', "", .nothing⟩, ⟨'C', "context", .maybe⟩,
    ⟨'e', "ed", .nothing⟩, ⟨'n', "rcs", .nothing⟩, ⟨'r', "recursive", .nothing⟩,
    ⟨'N', "new-file", .nothing⟩, ⟨'i', "ignore-case", .nothing⟩,
    ⟨'w', "ignore-all-space", .nothing⟩, ⟨'b', "ignore-space-change", .nothing⟩,
    ⟨'Z', "ignore-trailing-space", .nothing⟩, ⟨'B', "ignore-blank-lines", .nothing⟩,
    ⟨'a', "text", .nothing⟩, ⟨'L', "label", .argument⟩, ⟨'d', "minimal", .nothing⟩,
    ⟨'t', "expand-tabs", .nothing⟩, ⟨'o', "normal", .nothing⟩, ⟨'P', "", .nothing⟩,
    ⟨'$', "color", .maybe⟩, ⟨'p', "show-c-function", .nothing⟩]
  status := 2
  named := true

/-- The number of lines around differences that an option asks for. -/
def contextOption (arguments : List String) : List String :=
  match arguments with
  | "-U" :: n :: rest => ("-U" ++ n) :: contextOption rest
  | "-C" :: n :: rest => ("-C" ++ n) :: contextOption rest
  | argument :: rest => argument :: contextOption rest
  | [] => []

def diff : Tool := fun arguments => do
  let (chosen, operands) ← diffGrammar.all (contextOption arguments)
  let lines (letter : Char) : Act Nat := do
    let text := (chosen.text? letter).getD ""
    if text.isEmpty then return 3
    match Text.digits? text.toList with
    | some n => return n
    | none => misused s!"invalid context length {inQuotes text}"
  let style ← match chosen.has 'q', chosen.lastOf ['u', 'U', 'c', 'C', 'e', 'n', 'o'] with
    | true, _ => pure Style.brief
    | _, some 'u' => pure (.unified 3)
    | _, some 'U' => do pure (.unified (← lines 'U'))
    | _, some 'c' => pure (.context 3)
    | _, some 'C' => do pure (.context (← lines 'C'))
    | _, some 'e' => pure .script
    | _, some 'n' => pure .counts
    | _, _ => pure .normal
  let c : Comparison :=
    { style, tells := chosen.has 's', deep := chosen.has 'r', lenient := chosen.has 'N'
      anyCase := chosen.has 'i', noBlanks := chosen.has 'w', fewBlanks := chosen.has 'b'
      noTrail := chosen.has 'Z', noEmpty := chosen.has 'B', binary := chosen.has 'a'
      labels := (chosen.filter (·.1 = 'L')).map (·.2)
      options := arguments.filter fun a => !operands.contains a }
  match operands with
  | [] => do
    let self ← name
    misused s!"missing operand after {inQuotes self}"
  | [one] => misused s!"missing operand after {inQuotes one}"
  | [one, other] => setStatus (← c.compare 100 false one other)
  | _ :: _ :: extra :: _ => misused s!"extra operand {inQuotes extra}"

/-- The tools of this module by their names. -/
def comparingTools : List (String × Tool) := [("cmp", cmp), ("diff", diff)]

end Testbed.Rehearsal.Machine.Tool
