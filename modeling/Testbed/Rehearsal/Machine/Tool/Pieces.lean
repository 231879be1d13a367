import Testbed.Rehearsal.Machine.Tool.Calculation
import Testbed.Rehearsal.Machine.Tool.Sorting
import Testbed.Rehearsal.Machine.Tool.Transfer
/-!
# Joining and splitting

Tools that put lines of two files together by a field that they share, that cut a file into pieces,
and that take numbers apart; and small ones that tell about the machine.
-/
namespace Testbed.Rehearsal.Machine.Tool

open Act

/-! ## `join` -/

/-- A line as `join` sees it. -/
structure Row where
  text : List Char
  fields : List (List Char)

/-- What is shown of two lines: the field that they share, or a field of one of them. -/
inductive Column
  | shared
  | of (second : Bool) (field : Nat)
  deriving DecidableEq, Repr

structure Joining where
  tab : Option Char := none
  field : Nat := 0
  field' : Nat := 0
  columns : List Column := []
  /-- Whether the lines of each file are shown that have no partner. -/
  lonely : Bool := false
  lonely' : Bool := false
  /-- Whether those that have one are. -/
  pairs : Bool := true
  filler : List Char := []
  anyCase : Bool := false
  checks : Option Bool := none

namespace Joining

def fieldsOf (j : Joining) (line : List Char) : List (List Char) :=
  match j.tab with
  | some c => Text.cutAt c line
  | none =>
    let isBlank (c : Char) : Bool := c = ' ' || c = '\t'
    ((Text.cutAt ' ' (line.map fun c => if isBlank c then ' ' else c))).filter (!·.isEmpty)

def keyOf (j : Joining) (second : Bool) (r : Row) : List Char :=
  let key := (r.fields[if second then j.field' else j.field]?).getD []
  if j.anyCase then key.map Char.toLower else key

def without (fields : List (List Char)) (n : Nat) : List (List Char) :=
  fields.take n ++ fields.drop (n + 1)

/-- What is shown of two lines, or of one that has no partner. -/
def shown (j : Joining) (a b : Option Row) : List Char :=
  let between := [j.tab.getD ' ']
  let fill (cs : Option (List Char)) : List Char :=
    match cs with
    | some [] => j.filler
    | some cs => cs
    | none => j.filler
  let own (second : Bool) (r : Option Row) : Option (List Char) :=
    r.bind fun r => r.fields[if second then j.field' else j.field]?
  let key := own false a <|> own true b
  let fields := if j.columns.isEmpty then
      [fill key] ++ ((a.map fun r => without r.fields j.field).getD []).map (fill ∘ some) ++
        ((b.map fun r => without r.fields j.field').getD []).map (fill ∘ some)
    else j.columns.map fun
      | .shared => fill key
      | .of second n => fill ((if second then b else a).bind fun r => r.fields[n]?)
  Text.joinBy between fields ++ ['\n']

/-- The first lines with the same key, and the others. -/
def sameKey (j : Joining) (second : Bool) (key : List Char) (rows : List Row) :
    List Row × List Row :=
  rows.span fun r => j.keyOf second r = key

/-- Complains of the first line of some that is out of order. -/
def checkRows (j : Joining) (second : Bool) (path : String) : Nat → List Row → Act Bool
  | n, r :: next :: rest => do
    if compareLists (j.keyOf second r) (j.keyOf second next) = .gt then
      let number := Text.decimal (n + 1)
      complain s!"{path}:{number}: is not sorted: {String.ofList next.text}"
      return true
    else j.checkRows second path (n + 1) (next :: rest)
  | _, _ => return false

/-- Puts the lines together. The result tells whether any had no partner. -/
def merge (j : Joining) : Nat → List Row → List Row → Array Char → Bool → Array Char × Bool
  | 0, _, _, out, alone => (out, alone)
  | fuel + 1, a, b, out, alone =>
    let single (wanted second : Bool) (r : Row) : Array Char :=
      if wanted then
        out ++ (if second then j.shown none (some r) else j.shown (some r) none).toArray
      else out
    match a, b with
    | [], [] => (out, alone)
    | r :: a, [] => j.merge fuel a [] (single j.lonely false r) true
    | [], r :: b => j.merge fuel [] b (single j.lonely' true r) true
    | r :: rest, s :: rest' =>
      let (key, key') := (j.keyOf false r, j.keyOf true s)
      match compareLists key key' with
      | .lt => j.merge fuel rest (s :: rest') (single j.lonely false r) true
      | .gt => j.merge fuel (r :: rest) rest' (single j.lonely' true s) true
      | .eq =>
        let (same, rest) := j.sameKey false key (r :: rest)
        let (same', rest') := j.sameKey true key (s :: rest')
        let pairs := if j.pairs then
            same.flatMap fun r => same'.flatMap fun s => j.shown (some r) (some s)
          else []
        j.merge fuel rest rest' (out ++ pairs.toArray) alone

end Joining

/-- The columns that a text asks for. -/
def columnsOf (text : String) : Act (List Column) :=
  ((text.toList.splitBy fun a b => (a = ',' || a = ' ') = (b = ',' || b = ' ')).filter fun word =>
    !word.any fun c => c = ',' || c = ' ').mapM fun word => do
      let shown := inQuotes (String.ofList word)
      match word with
      | ['0'] => return Column.shared
      | c :: '.' :: digits =>
        if c ≠ '1' && c ≠ '2' then fail s!"invalid file number in field spec: {shown}"
        match Text.digits? digits with
        | some (n + 1) => return .of (c = '2') n
        | _ => fail s!"invalid field number: {inQuotes (String.ofList digits)}"
      | c :: _ =>
        if c ≠ '1' && c ≠ '2' then fail s!"invalid file number in field spec: {shown}"
        else fail s!"invalid field specifier: {shown}"
      | [] => fail s!"invalid field specifier: {shown}"

def join : Tool := fun arguments => do
  let g : Grammar := { kinds := [⟨'1', "", .argument⟩, ⟨'2', "", .argument⟩, ⟨'j', "", .argument⟩,
    ⟨'t', "", .argument⟩, ⟨'a', "", .argument⟩, ⟨'v', "", .argument⟩, ⟨'o', "", .argument⟩,
    ⟨'e', "", .argument⟩, ⟨'i', "ignore-case", .nothing⟩, ⟨'N', "nocheck-order", .nothing⟩,
    ⟨'C', "check-order", .nothing⟩, ⟨'H', "header", .nothing⟩] }
  let (chosen, files) ← g.all arguments
  let field (letter : Char) : Act Nat :=
    match chosen.text? letter <|> chosen.text? 'j' with
    | none => return 0
    | some text =>
      match Text.digits? text.toList with
      | some (n + 1) => return n
      | _ => fail s!"invalid field number: {inQuotes text}"
  let side (letter : Char) : Act (List String) := do
    let texts := (chosen.filter (·.1 = letter)).map (·.2)
    for text in texts do
      if text ≠ "1" && text ≠ "2" then fail s!"invalid file number: {inQuotes text}"
    return texts
  let shownAlone ← side 'a'
  let onlyAlone ← side 'v'
  let columns ← match chosen.text? 'o' with
    | none => pure []
    | some text => columnsOf text
  let tab ← match chosen.text? 't' with
    | none => pure none
    | some text =>
      match text.toList with
      | [] => pure (some '\n')
      | [c] => pure (some c)
      | _ =>
        if text = "\\0" then pure (some '\x00') else fail s!"multi-character tab {inQuotes text}"
  let j : Joining :=
    { tab, columns, field := ← field '1', field' := ← field '2'
      lonely := (shownAlone ++ onlyAlone).contains "1"
      lonely' := (shownAlone ++ onlyAlone).contains "2", pairs := onlyAlone.isEmpty
      filler := ((chosen.text? 'e').getD "").toList, anyCase := chosen.has 'i'
      checks := (chosen.lastOf ['N', 'C']).map (· = 'C') }
  match files with
  | [] => misuse "missing operand"
  | [one] => misuse s!"missing operand after {inQuotes one}"
  | [first, second] =>
    let rowsAt (path : String) : Act (List Row) := do
      match ← contentOf path with
      | .ok text => return (linesOf text).1.map fun line => ⟨line, j.fieldsOf line⟩
      | .error e => fail s!"{shownName path}: {e.words.1}"
    let a ← rowsAt first
    let b ← rowsAt second
    let (out, alone) := j.merge (a.length + b.length + 1) a b #[] false
    let check : Act Bool := do
      let one ← j.checkRows false first 1 a
      let other ← if one && j.checks = some true then pure false else j.checkRows true second 1 b
      return one || other
    if j.checks = some true then
      if ← check then quit 1
    let disorder ← if j.checks = none && alone then check else pure false
    put 1 out.toList
    if disorder then trouble "input is not in sorted order"
  | _ :: _ :: extra :: _ => misuse s!"extra operand {inQuotes extra}"

/-! ## `split` -/

/-- The endings of the names of pieces: letters or digits, counted up. -/
def pieceSuffix (digits : Bool) (width n : Nat) : String :=
  let base := if digits then 10 else 26
  String.ofList ((List.range width).map fun i =>
    let d := n / Nat.pow base (width - 1 - i) % base
    Char.ofNat ((if digits then '0' else 'a').toNat + d))

/-- Lines in pieces of no more than a number of bytes. -/
def packed (size : Nat) (lines : List (List Char)) : List (List Char) :=
  let (pieces, piece) := lines.foldl (fun (pieces, piece) line =>
    if piece.isEmpty || (piece ++ line).length ≤ size then (pieces, piece ++ line)
    else (piece :: pieces, line)) (([] : List (List Char)), ([] : List Char))
  (if piece.isEmpty then pieces else piece :: pieces).reverse

def split : Tool := fun arguments => do
  let arguments := match arguments with
    | first :: rest =>
      match first.toList with
      | '-' :: c :: digits =>
        if c.isDigit then "-l" :: String.ofList (c :: digits) :: rest else arguments
      | _ => arguments
    | [] => []
  let g : Grammar := { kinds := [⟨'l', "lines", .argument⟩, ⟨'b', "bytes", .argument⟩,
    ⟨'C', "line-bytes", .argument⟩, ⟨'n', "number", .argument⟩, ⟨'d', "", .nothing⟩,
    ⟨'D', "numeric-suffixes", .maybe⟩, ⟨'a', "suffix-length", .argument⟩,
    ⟨'s', "additional-suffix", .argument⟩, ⟨'v', "verbose", .nothing⟩, ⟨'e', "", .nothing⟩] }
  let (chosen, operands) ← g.all arguments
  let amount (what text : String) : Act Nat :=
    match sized? text.toList with
    | some (n + 1) => return n + 1
    | _ => fail s!"invalid number of {what}: {inQuotes text}"
  let path := operands.head?.getD "-"
  let front := operands[1]?.getD "x"
  let text? ← contentOf path
  let cutter ← match chosen.lastOf ['l', 'b', 'C', 'n'] with
    | some 'b' => do
      let n ← amount "bytes" ((chosen.text? 'b').getD "")
      pure fun (text : List Char) => Text.chunks n text
    | some 'C' => do
      let n ← amount "lines" ((chosen.text? 'C').getD "")
      pure fun text => packed n (wholeLines text)
    | some 'n' => do
      let n ← amount "chunks" ((chosen.text? 'n').getD "")
      pure fun text =>
        let size := text.length / n
        (List.range n).map fun i =>
          let part := text.drop (i * size)
          if i + 1 = n then part else part.take size
    | some _ => do
      let n ← amount "lines" ((chosen.text? 'l').getD "")
      pure fun text => (Text.chunks n (wholeLines text)).map List.flatten
    | none => pure fun text => (Text.chunks 1000 (wholeLines text)).map List.flatten
  let digits := chosen.has 'd' || chosen.has 'D'
  match text? with
  | .error e =>
    if e = .isADirectory then fail s!"{shownName path}: {e.words.1}"
    else fail s!"cannot open {inQuotes path} for reading: {e.words.1}"
  | .ok text =>
    let pieces := cutter text
    let given := (chosen.text? 'a').bind fun text => Text.digits? text.toList
    let base := if digits then 10 else 26
    let width := given.getD (if pieces.length ≤ Nat.pow base 2 then 2 else 3)
    for (piece, i) in pieces.zipIdx do
      if Nat.pow base width ≤ i then fail "output file suffixes exhausted"
      let name := front ++ pieceSuffix digits width i ++ (chosen.text? 's').getD ""
      if chosen.has 'v' then say s!"creating file {inQuotes name}\n"
      match ← writeFile name piece with
      | .ok _ => pure ()
      | .error e => fail s!"{shownName name}: {e.words.1}"

/-! ## Numbers -/

/-- The prime factors of a number, from `d` on. -/
def primeFactors : Nat → Nat → Nat → List Nat
  | 0, _, n => [n]
  | fuel + 1, d, n =>
    if n < 2 then []
    else if n < d * d then [n]
    else if n % d = 0 then d :: primeFactors fuel d (n / d)
    else primeFactors fuel (d + 1) n

def factor : Tool := fun arguments => do
  let (_, words) ← ({ kinds := [] } : Grammar).all arguments
  let words ← if words.isEmpty then
      match ← contentOf "-" with
      | .ok text =>
        pure (((Text.cutAt ' ' (text.map fun c => if c = '\n' || c = '\t' then ' ' else c)).filter
          (!·.isEmpty)).map String.ofList)
      | .error e => fail s!"error reading input: {e.words.1}"
    else pure words
  for word in words do
    match Text.digits? word.toList with
    | some n =>
      let factors := (primeFactors 1000000 2 n).map fun p => " " ++ Text.decimal p
      say (Text.decimal n ++ ":" ++ Text.join "" factors ++ "\n")
    | none => trouble s!"{inQuotes word} is not a valid positive integer"

/-! ## About the machine -/

def uname : Tool := fun arguments => do
  let g : Grammar := { kinds := [⟨'a', "all", .nothing⟩, ⟨'s', "kernel-name", .nothing⟩,
    ⟨'n', "nodename", .nothing⟩, ⟨'r', "kernel-release", .nothing⟩,
    ⟨'v', "kernel-version", .nothing⟩, ⟨'m', "machine", .nothing⟩, ⟨'p', "processor", .nothing⟩,
    ⟨'o', "operating-system", .nothing⟩] }
  let (chosen, _) ← g.all arguments
  let known := [('s', "Linux"), ('n', "localhost"), ('r', "6.1.0"), ('v', "#1 SMP"),
    ('m', "x86_64"), ('o', "GNU/Linux")]
  let wanted := known.filter fun (c, _) =>
    chosen.has c || chosen.has 'a' || (chosen.isEmpty && c = 's')
  say (Text.join " " (wanted.map (·.2)) ++ "\n")

def id_ : Tool := fun arguments => do
  let g : Grammar := { kinds := [⟨'u', "user", .nothing⟩, ⟨'g', "group", .nothing⟩,
    ⟨'G', "groups", .nothing⟩, ⟨'n', "name", .nothing⟩, ⟨'r', "real", .nothing⟩] }
  let (chosen, _) ← g.all arguments
  say (if !(['u', 'g', 'G'].any chosen.has) then "uid=0(root) gid=0(root) groups=0(root)\n"
    else if chosen.has 'n' then "root\n" else "0\n")

def tty : Tool := fun arguments => do
  let (chosen, _) ← ({ kinds := [⟨'s', "silent", .nothing⟩], status := 2 } : Grammar).all arguments
  unless chosen.has 's' do say "not a tty\n"
  setStatus 1

/-- A tool that always says the same. -/
def saying (text : String) : Tool := fun _ => say text

/-- The tools of this module by their names. -/
def pieceTools : List (String × Tool) :=
  [("arch", saying "x86_64\n"),
   ("factor", factor),
   ("groups", saying "root\n"),
   ("id", id_),
   ("join", join),
   ("nproc", saying "1\n"),
   ("split", split),
   ("sync", saying ""),
   ("tty", tty),
   ("uname", uname),
   ("whoami", saying "root\n")]

end Testbed.Rehearsal.Machine.Tool
