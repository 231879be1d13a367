import Testbed.Rehearsal.Machine.Tool.Reading
/-!
# Lines in order

Programs that put lines into an order, or work on lines that are in one.
-/
namespace Testbed.Rehearsal.Machine.Tool

open Act

/-! ## Keys -/

/-- How keys are compared. -/
structure Order where
  numeric : Bool := false
  general : Bool := false
  human : Bool := false
  month : Bool := false
  version : Bool := false
  fold : Bool := false
  dictionary : Bool := false
  printable : Bool := false
  reverse : Bool := false
  blanksAtStart : Bool := false
  blanksAtEnd : Bool := false
  deriving DecidableEq, Repr

/-- Where a key begins or ends: a field and a character in it, both counted from one. -/
structure Key where
  field : Nat
  char : Nat := 1
  lastField : Option Nat := none
  /-- Zero is the end of the field. -/
  lastChar : Nat := 0
  order : Order := {}
  deriving Repr

/-- The order of a letter. -/
def Order.turn? (o : Order) : Char → Option Order
  | 'n' => some { o with numeric := true }
  | 'g' => some { o with general := true }
  | 'h' => some { o with human := true }
  | 'M' => some { o with month := true }
  | 'V' => some { o with version := true }
  | 'f' => some { o with fold := true }
  | 'd' => some { o with dictionary := true }
  | 'i' => some { o with printable := true }
  | 'r' => some { o with reverse := true }
  | _ => none

def isBlankChar (c : Char) : Bool := c = ' ' || c = '\t'

/-- The place where a field begins. Without a separator, a field begins with the blanks in front of
it. -/
def fieldStart (separator : Option Char) : Nat → List Char → Nat → Nat
  | 0, _, place => place
  | n + 1, cs, place =>
    match separator with
    | some c =>
      let front := cs.takeWhile (· ≠ c)
      if front.length < cs.length then
        fieldStart separator n (cs.drop (front.length + 1)) (place + front.length + 1)
      else place + cs.length
    | none =>
      let blanks := (cs.takeWhile isBlankChar).length
      let word := ((cs.drop blanks).takeWhile (!isBlankChar ·)).length
      fieldStart separator n (cs.drop (blanks + word)) (place + blanks + word)

/-- The place where a field ends. -/
def fieldEnd (separator : Option Char) (n : Nat) (line : List Char) : Nat :=
  let start := fieldStart separator n line 0
  let cs := line.drop start
  match separator with
  | some c => start + (cs.takeWhile (· ≠ c)).length
  | none =>
    let blanks := (cs.takeWhile isBlankChar).length
    start + blanks + ((cs.drop blanks).takeWhile (!isBlankChar ·)).length

/-- The part of a line that a key stands for. -/
def Key.part (k : Key) (separator : Option Char) (line : List Char) : List Char :=
  let start := fieldStart separator (k.field - 1) line 0
  let skip (on : Bool) (place : Nat) : Nat :=
    if on then place + ((line.drop place).takeWhile isBlankChar).length else place
  let first := min line.length (skip k.order.blanksAtStart start + (k.char - 1))
  let last := match k.lastField with
    | none => line.length
    | some f =>
      if k.lastChar = 0 then fieldEnd separator (f - 1) line
      else
        let start := fieldStart separator (f - 1) line 0
        min line.length (skip k.order.blanksAtEnd start + k.lastChar)
  (line.drop first).take (last - first)

/-! ## Comparing -/

/-- The sign, the whole digits and the places of a number at the begin of a text. -/
def numberAt (cs : List Char) : Bool × List Char × List Char :=
  let cs := cs.dropWhile isBlankChar
  let (negative, cs) := match cs with
    | '-' :: rest => (true, rest)
    | cs => (false, cs)
  let whole := cs.takeWhile Char.isDigit
  let places := match cs.drop whole.length with
    | '.' :: rest => rest.takeWhile Char.isDigit
    | _ => []
  (negative, whole.dropWhile (· = '0'), (places.reverse.dropWhile (· = '0')).reverse)

def compareLists (a b : List Char) : Ordering :=
  match a, b with
  | [], [] => .eq
  | [], _ => .lt
  | _, [] => .gt
  | x :: a, y :: b => if x < y then .lt else if y < x then .gt else compareLists a b

def compareNumbers (a b : List Char) : Ordering :=
  let (negA, wholeA, placesA) := numberAt a
  let (negB, wholeB, placesB) := numberAt b
  let zeroA := wholeA.isEmpty && placesA.isEmpty
  let zeroB := wholeB.isEmpty && placesB.isEmpty
  let sizes : Ordering :=
    if wholeA.length < wholeB.length then .lt
    else if wholeB.length < wholeA.length then .gt
    else match compareLists wholeA wholeB with
      | .eq => compareLists placesA placesB
      | o => o
  match negA && !zeroA, negB && !zeroB with
  | true, false => .lt
  | false, true => .gt
  | true, true => sizes.swap
  | false, false => sizes

/-- The value of a number with a point and an exponent, as a comparison needs it. -/
def generalNumber (cs : List Char) : Option (Bool × Printf.Fraction) :=
  match Printf.fraction? false (cs.dropWhile isBlankChar) with
  | some (.finite negative value, _) => some (negative, value)
  | _ => none

def compareGeneral (a b : List Char) : Ordering :=
  match generalNumber a, generalNumber b with
  | none, none => .eq
  | none, _ => .lt
  | _, none => .gt
  | some (negA, x), some (negB, y) =>
    let value (negative : Bool) (n : Nat) : Int := if negative then -(n : Int) else n
    compare (value negA (x.numerator * y.denominator)) (value negB (y.numerator * x.denominator))

def monthNumber (cs : List Char) : Nat :=
  let name := String.ofList (((cs.dropWhile isBlankChar).take 3).map Char.toUpper)
  let names := ["JAN", "FEB", "MAR", "APR", "MAY", "JUN", "JUL", "AUG", "SEP", "OCT", "NOV", "DEC"]
  ((names.findIdx? (· = name)).map (· + 1)).getD 0

/-- The size of the unit behind a number. -/
def unitRank (cs : List Char) : Nat :=
  let cs := cs.dropWhile isBlankChar
  let cs := if cs.head? = some '-' then cs.drop 1 else cs
  match (cs.dropWhile fun c => c.isDigit || c = '.').head? with
  | some 'K' => 1
  | some 'k' => 1
  | some 'M' => 2
  | some 'G' => 3
  | some 'T' => 4
  | some 'P' => 5
  | some 'E' => 6
  | _ => 0

def compareHuman (a b : List Char) : Ordering :=
  let sign (cs : List Char) : Bool := (numberAt cs).1
  match sign a, sign b with
  | true, false => .lt
  | false, true => .gt
  | negative, _ =>
    let ranks := compare (unitRank a) (unitRank b)
    if ranks = .eq then compareNumbers a b else if negative then ranks.swap else ranks

/-- The runs of digits and of other characters in turn. -/
def runsOf : Nat → List Char → List (List Char)
  | 0, _ => []
  | fuel + 1, cs =>
    match cs with
    | [] => []
    | _ =>
      let other := cs.takeWhile (!·.isDigit)
      let digits := (cs.drop other.length).takeWhile Char.isDigit
      other :: digits :: runsOf fuel (cs.drop (other.length + digits.length))

/-- Compares names with numbers in them. -/
def compareVersions (a b : List Char) : Ordering :=
  go (runsOf (a.length + 1) a) (runsOf (b.length + 1) b) false
where
  go : List (List Char) → List (List Char) → Bool → Ordering
    | [], [], _ => .eq
    | [], _, _ => .lt
    | _, [], _ => .gt
    | x :: a, y :: b, digits =>
      let o := if digits then compareNumbers x y else compareLists (x.map rank) (y.map rank)
      if o = .eq then go a b (!digits) else o
  /-- Letters come before other signs, and a tilde before everything. -/
  rank (c : Char) : Char :=
    if c = '~' then '\x00' else if c.isAlpha then c else Char.ofNat (c.toNat + 256)

/-- A key as its order sees it. -/
def Order.view (o : Order) (cs : List Char) : List Char :=
  let cs := if o.dictionary then cs.filter fun c => c.isAlphanum || isBlankChar c else cs
  let cs := if o.printable then cs.filter fun c => ' ' ≤ c && c ≤ '~' else cs
  if o.fold then cs.map Char.toUpper else cs

def Order.compare (o : Order) (a b : List Char) : Ordering :=
  let plain :=
    if o.numeric then compareNumbers a b
    else if o.general then compareGeneral a b
    else if o.human then compareHuman a b
    else if o.month then Ord.compare (monthNumber a) (monthNumber b)
    else if o.version then compareVersions (o.view a) (o.view b)
    else compareLists (o.view a) (o.view b)
  if o.reverse then plain.swap else plain

/-! ## `sort` -/

/-- What a key is: `field[.char][letters][,field[.char][letters]]`. -/
def keyOf (text : String) : Act Key := do
  let cs := text.toList
  let number (cs : List Char) : Option Nat × List Char :=
    let digits := cs.takeWhile Char.isDigit
    (Text.digits? digits, cs.drop digits.length)
  let bad {α : Type} (what : String) : Act α :=
    fail s!"{what}: invalid field specification {inQuotes text}" 2
  let letters (cs : List Char) (o : Order) (atEnd : Bool) : Order × List Char :=
    let row := cs.takeWhile fun c => c ≠ ','
    let o := row.foldl (fun o c =>
      if c = 'b' then
        if atEnd then { o with blanksAtEnd := true } else { o with blanksAtStart := true }
      else (o.turn? c).getD o) o
    (o, cs.drop row.length)
  let known (cs : List Char) : Bool :=
    (cs.takeWhile (· ≠ ',')).all fun c => c = 'b' || (({} : Order).turn? c).isSome
  let (field, rest) := number cs
  match field with
  | none =>
    fail s!"invalid number at field start: invalid count at start of {inQuotes text}" 2
  | some 0 => bad "field number is zero"
  | some field =>
    let (char, rest) ← match rest with
      | '.' :: rest =>
        match number rest with
        | (none, _) => bad "invalid number after '.'"
        | (some 0, _) => bad "character offset is zero"
        | (some n, rest) => pure (n, rest)
      | rest => pure (1, rest)
    unless known rest do bad "stray character in field spec"
    let (order, rest) := letters rest {} false
    match rest with
    | [] => return { field, char, order }
    | _ :: rest =>
      let (last, rest) := number rest
      match last with
      | none => bad "invalid number after ','"
      | some 0 => bad "field number is zero"
      | some last =>
        let (lastChar, rest) ← match rest with
          | '.' :: rest =>
            match number rest with
            | (none, _) => bad "invalid number after '.'"
            | (some n, rest) => pure (n, rest)
          | rest => pure (0, rest)
        unless known rest do bad "stray character in field spec"
        let (order, _) := letters rest order true
        return { field, char, lastField := some last, lastChar, order }

def sortGrammar : Grammar where
  kinds := [⟨'b', "ignore-leading-blanks", .nothing⟩, ⟨'d', "dictionary-order", .nothing⟩,
    ⟨'f', "ignore-case", .nothing⟩, ⟨'g', "general-numeric-sort", .nothing⟩,
    ⟨'i', "ignore-nonprinting", .nothing⟩, ⟨'M', "month-sort", .nothing⟩,
    ⟨'h', "human-numeric-sort", .nothing⟩, ⟨'n', "numeric-sort", .nothing⟩,
    ⟨'r', "reverse", .nothing⟩, ⟨'V', "version-sort", .nothing⟩, ⟨'c', "check", .maybe⟩,
    ⟨'C', "", .nothing⟩, ⟨'k', "key", .argument⟩, ⟨'m', "merge", .nothing⟩,
    ⟨'o', "output", .argument⟩, ⟨'s', "stable", .nothing⟩,
    ⟨'t', "field-separator", .argument⟩, ⟨'u', "unique", .nothing⟩,
    ⟨'z', "zero-terminated", .nothing⟩, ⟨'S', "buffer-size", .argument⟩,
    ⟨'T', "temporary-directory", .argument⟩]
  status := 2

def sort : Tool := fun arguments => do
  let (chosen, files) ← ({ sortGrammar with kinds := sortGrammar.kinds.map fun k =>
    if k.letter = 'c' then { k with takes := .nothing } else k } : Grammar).all arguments
  let mark := if chosen.has 'z' then '\x00' else '\n'
  let whole : Order := chosen.foldl (fun o (c, _) =>
    if c = 'b' then { o with blanksAtStart := true, blanksAtEnd := true }
    else (o.turn? c).getD o) {}
  let separator ← match chosen.text? 't' with
    | none => pure none
    | some text =>
      match text.toList with
      | [c] => pure (some c)
      | ['\\', '0'] => pure (some '\x00')
      | [] => fail "empty tab" 2
      | _ => fail s!"multi-character tab {inQuotes text}" 2
  let mut keys : List Key := []
  for (letter, text) in chosen do
    if letter = 'k' then
      let k ← keyOf text
      -- a key without letters is ordered like the whole
      keys := keys ++ [if k.order = {} then { k with order := whole } else k]
  let byKeys (a b : List Char) : Ordering :=
    if keys.isEmpty then
      let strip (cs : List Char) : List Char :=
        if whole.blanksAtStart then cs.dropWhile isBlankChar else cs
      whole.compare (strip a) (strip b)
    else keys.foldl (fun o k =>
      if o = .eq then k.order.compare (k.part separator a) (k.part separator b) else o) .eq
  let unique := chosen.has 'u'
  let order (a b : List Char) : Ordering :=
    match byKeys a b with
    | .eq =>
      if unique || chosen.has 's' then .eq
      else if whole.reverse then (compareLists a b).swap else compareLists a b
    | o => o
  let mut lines : List (List Char) := []
  for path in inputsOf files do
    match ← contentOf path with
    | .ok text => lines := lines ++ (linesOf text mark).1
    | .error e =>
      if e = .isADirectory then fail s!"read failed: {shownName path}: {e.words.1}" 2
      else fail s!"cannot read: {shownName path}: {e.words.1}" 2
  if chosen.has 'c' || chosen.has 'C' then
    let wrong := (lines.zip (lines.drop 1)).findIdx? fun (a, b) =>
      let o := order a b
      o = .gt || (unique && o = .eq)
    match wrong with
    | none => return ()
    | some n =>
      unless chosen.has 'C' do
        let path := shownName ((inputsOf files).head?.getD "-")
        let line := String.ofList (lines[n + 1]?.getD [])
        complain s!"{path}:{Text.decimal (n + 2)}: disorder: {line}"
      quit 1
  let sorted := lines.mergeSort fun a b => order a b ≠ .gt
  let kept := if unique then
      (sorted.foldl (fun (found : List (List Char)) line =>
        match found with
        | last :: _ => if byKeys last line = .eq then found else line :: found
        | [] => [line]) []).reverse
    else sorted
  let text := joinLines kept mark
  match chosen.text? 'o' with
  | none => put 1 text 2
  | some path =>
    match ← writeFile path text with
    | .ok _ => pure ()
    | .error e => fail s!"open failed: {shownName path}: {e.words.1}" 2

/-! ## Equal lines -/

def uniqGrammar : Grammar where
  kinds := [⟨'c', "count", .nothing⟩, ⟨'d', "repeated", .nothing⟩, ⟨'D', "", .nothing⟩,
    ⟨'u', "unique", .nothing⟩, ⟨'i', "ignore-case", .nothing⟩, ⟨'f', "skip-fields", .argument⟩,
    ⟨'s', "skip-chars", .argument⟩, ⟨'w', "check-chars", .argument⟩,
    ⟨'z', "zero-terminated", .nothing⟩]

/-- Lines that are equal in a row, by what counts of them. -/
def groupLines (view : List Char → List Char) : List (List Char) → List (List (List Char))
  | [] => []
  | line :: rest =>
    match groupLines view rest with
    | [] => [[line]]
    | [] :: groups => [line] :: groups
    | (other :: same) :: groups =>
      if view line = view other then (line :: other :: same) :: groups
      else [line] :: (other :: same) :: groups

def uniq : Tool := fun arguments => do
  let (chosen, operands) ← uniqGrammar.all arguments
  if 2 < operands.length then misuse ("extra operand " ++ inQuotes (operands[2]?.getD ""))
  let number (letter : Char) (what : String) : Act (Option Nat) := do
    match chosen.text? letter with
    | none => return none
    | some text =>
      match Text.digits? text.toList with
      | some n => return some n
      | none => fail s!"{text}: invalid number of {what}"
  let fields ← number 'f' "fields to skip"
  let chars ← number 's' "bytes to skip"
  let width ← number 'w' "bytes to compare"
  let mark := if chosen.has 'z' then '\x00' else '\n'
  let rec skip : Nat → List Char → List Char
    | 0, cs => cs
    | n + 1, cs => skip n ((cs.dropWhile isBlankChar).dropWhile (!isBlankChar ·))
  let view (line : List Char) : List Char :=
    let cs := (skip (fields.getD 0) line).drop (chars.getD 0)
    let cs := width.elim cs cs.take
    if chosen.has 'i' then cs.map Char.toUpper else cs
  let path := operands.head?.getD "-"
  match ← contentOf path with
  | .error e =>
    fail (if e = .isADirectory then s!"error reading {inQuotes path}: {e.words.1}"
      else s!"{shownName path}: {e.words.1}")
  | .ok text =>
    let groups := groupLines view (linesOf text mark).1
    let out := groups.flatMap fun group =>
      let many := 1 < group.length
      let shown := if chosen.has 'd' || chosen.has 'D' then many && !chosen.has 'u'
        else if chosen.has 'u' then !many else true
      if !shown then []
      else if chosen.has 'D' then joinLines group mark
      else
        let count := if chosen.has 'c' then toRight 7 (Text.decimal group.length) ++ " " else ""
        count.toList ++ group.head?.getD [] ++ [mark]
    match operands[1]? with
    | none => put 1 out
    | some target =>
      match ← writeFile target out with
      | .ok _ => pure ()
      | .error e => fail s!"{shownName target}: {e.words.1}"

/-- How lines of two sorted files are set side by side. -/
structure Columns where
  chosen : Chosen
  gap : List Char
  /-- Whether the order is checked from the beginning; else it is once a line stands alone. -/
  checks : Option Bool

namespace Columns

/-- Writes a line in its column. -/
def row (c : Columns) (column : Char) (before line : List Char) : Act Unit :=
  if c.chosen.has column then return ()
  else put 1 ((before.flatMap fun b => if c.chosen.has b then [] else c.gap) ++ line ++ ['\n'])

/-- Checks the order of a file when a line of it was used: the next line must not come before it,
and at the end of the file it must not itself come before the last one. -/
def check (c : Columns) (alone : Bool) (file : String) (told : Bool)
    (before : Option (List Char)) (line : List Char) (rest : List (List Char)) : Act Bool := do
  if told || !(c.checks.getD alone) then return told
  let disorder : Bool := match rest, before with
    | next :: _, _ => compareLists line next = .gt
    | [], some last => compareLists last line = .gt
    | [], none => false
  if disorder then
    complain s!"file {file} is not in sorted order"
    if c.checks = some true then quit 1
  return disorder

/-- Sets the lines side by side. The two texts that may be given are the last lines used. -/
def merge (c : Columns) : Nat → (alone : Bool) → (told told' : Bool) →
    Option (List Char) → Option (List Char) → List (List Char) → List (List Char) → Act Bool
  | 0, _, told, told', _, _, _, _ => return told || told'
  | fuel + 1, alone, told, told', last, last', a, b => do
    let order := match a, b with
      | x :: _, y :: _ => compareLists x y
      | _ :: _, [] => .lt
      | [], _ => .gt
    let alone := alone || order ≠ .eq
    match order, a, b with
    | .lt, x :: a, b =>
      c.row '1' [] x
      let told ← c.check alone "1" told last x a
      c.merge fuel alone told told' (some x) last' a b
    | .gt, a, y :: b =>
      c.row '2' ['1'] y
      let told' ← c.check alone "2" told' last' y b
      c.merge fuel alone told told' last (some y) a b
    | .eq, x :: a, y :: b =>
      c.row '3' ['1', '2'] x
      let told ← c.check alone "1" told last x a
      let told' ← c.check alone "2" told' last' y b
      c.merge fuel alone told told' (some x) (some y) a b
    | _, _, _ => return told || told'

end Columns

/-- Lines of two sorted files, in columns: those of the first, those of the second, those of
both. -/
def comm : Tool := fun arguments => do
  let g : Grammar := { kinds := [⟨'1', "", .nothing⟩, ⟨'2', "", .nothing⟩, ⟨'3', "", .nothing⟩,
    ⟨'\x01', "output-delimiter", .argument⟩,
    ⟨'\x02', "nocheck-order", .nothing⟩, ⟨'\x03', "check-order", .nothing⟩,
    ⟨'\x04', "total", .nothing⟩, ⟨'z', "zero-terminated", .nothing⟩] }
  let (chosen, files) ← g.all arguments
  match files with
  | [] => misuse "missing operand"
  | [one] => misuse s!"missing operand after {inQuotes one}"
  | [first, second] =>
    let linesAt (path : String) : Act (List (List Char)) := do
      match ← contentOf path with
      | .ok text => return (linesOf text).1
      | .error e => fail s!"{shownName path}: {e.words.1}"
    let a ← linesAt first
    let b ← linesAt second
    let c : Columns :=
      { chosen, gap := ((chosen.text? '\x01').getD "\t").toList
        checks := (chosen.lastOf ['\x02', '\x03']).map (· = '\x03') }
    if ← c.merge (a.length + b.length + 1) false false false none none a b then
      trouble "input is not in sorted order"
  | _ :: _ :: third :: _ => misuse s!"extra operand {inQuotes third}"

/-- The tools of this module by their names. -/
def sortingTools : List (String × Tool) := [("comm", comm), ("sort", sort), ("uniq", uniq)]

end Testbed.Rehearsal.Machine.Tool
