import Testbed.Text.Pattern
import Testbed.Text.Pattern.Mistake
/-!
# Expressions

The written form of a pattern. Most characters stand for themselves; `.` is any character, `[a-z]`
one of a set, `(…)` a part, `|` a choice, `?`, `*`, `+` and `{2,5}` are repetitions, `^`, `$` and
`\b` edges. Flags in `(?flags)` hold up to the end of the part that they stand in.

`Expression.read` makes a pattern of an expression or tells the first mistake. A mistake of form
goes before one of content, such as a property that nobody knows.
-/
namespace Testbed.Text.Pattern.Expression

/-- How an expression is to be understood. -/
structure Flags where
  ignoreCase : Bool := false
  /-- `^` and `$` are edges of lines. -/
  lines : Bool := false
  /-- `.` is also a line feed. -/
  dotAll : Bool := false
  /-- Lines may end in carriage returns. -/
  returns : Bool := false
  /-- Blanks stand for nothing, and `#` begins a comment. -/
  spaced : Bool := false
  unicode : Bool := true
  deriving DecidableEq, Repr

/-- What is left of an expression, and what is known so far. -/
structure Reader where
  text : Array Char
  place : Nat := 0
  flags : Flags := {}
  /-- The names of groups, and where they stand. -/
  names : List (List Char × Span) := []
  groups : Nat := 0
  /-- The first mistake of content. -/
  later : Option Mistake := none

abbrev Read (α : Type) := StateT Reader (Except Mistake) α

namespace Read

def fail {α : Type} (kind : MistakeKind) (first last : Nat) : Read α :=
  throw { kind, span := ⟨first, last⟩ }

/-- Notes a mistake of content. -/
def blame (kind : MistakeKind) (first last : Nat) : Read Unit :=
  modify fun r => { r with later := r.later <|> some { kind, span := ⟨first, last⟩ } }

def place : Read Nat := return (← get).place

/-- The next character. -/
def next? : Read (Option Char) := do
  let r ← get
  return r.text[r.place]?

def goTo (place : Nat) : Read Unit := modify fun r => { r with place }

/-- Goes on by a character. -/
def skip : Read Unit :=
  modify fun r => { r with place := min (r.place + 1) r.text.size }

/-- Where the text goes on behind blanks and comments. -/
def behindSpace (text : Array Char) : Nat → Bool → Nat → Nat
  | 0, _, place => place
  | fuel + 1, comment, place =>
    match text[place]? with
    | none => place
    | some c =>
      if comment then behindSpace text fuel (c ≠ '\n') (place + 1)
      else if isBlank c then behindSpace text fuel false (place + 1)
      else if c = '#' then behindSpace text fuel true (place + 1)
      else place

/-- Skips what stands for nothing. -/
def skipSpace : Read Unit := modify fun r =>
  if r.flags.spaced then { r with place := behindSpace r.text (r.text.size + 1) false r.place }
  else r

/-- Goes on by a character and what stands for nothing behind it; whether anything is left. -/
def advance : Read Bool := do
  skip
  skipSpace
  return (← next?).isSome

/-- Goes on by a text if it comes next. -/
def accept (s : String) : Read Bool := do
  let r ← get
  let here := (r.text.toList.drop r.place).take s.length
  if here = s.toList then
    goTo (r.place + s.length)
    return true
  return false

/-- The character that comes after the next one and what stands for nothing. -/
def beyond? : Read (Option Char) := do
  let r ← get
  let place := r.place + 1
  return r.text[if r.flags.spaced then behindSpace r.text (r.text.size + 1) false place else place]?

end Read

open Read

/-- Something that stands for one character or none. -/
inductive Primitive
  | literal (c : Char)
  | dot
  | edge (e : Edge)
  | set (s : CharSet)

/-- A set in which case is ignored if the flags say so. -/
def cased (flags : Flags) (s : CharSet) : CharSet := if flags.ignoreCase then .folded s else s

/-- The pattern of a primitive. -/
def Primitive.pattern (p : Primitive) (flags : Flags) : Pattern :=
  match p with
  | .literal c => .one (cased flags (.single c))
  | .dot =>
    if flags.dotAll then .any
    else .one (.compl (.ofChars (if flags.returns then ['\r', '\n'] else ['\n'])))
  | .edge e => .edge e
  | .set s => .one (cased flags s)

/-! ## Escapes -/

/-- Characters that have a meaning of their own in an expression. -/
def isMeta (c : Char) : Bool := "\\.+*?()|[]\x7b\x7d^$#&-~".toList.contains c

/-- Whether a backslash before it makes an ASCII character stand for itself. -/
def isEscapable (c : Char) : Bool :=
  isMeta c || (c.toNat < 128 && !c.isAlphanum && c ≠ '<' && c ≠ '>')

def isHex (c : Char) : Bool := c.isDigit || ('a' ≤ c && c ≤ 'f') || ('A' ≤ c && c ≤ 'F')

/-- The character of a code point. -/
def charOf? (n : Nat) : Option Char := if h : n.isValidChar then some (Char.ofNatAux n h) else none

/-- Some hexadecimal digits. -/
def hexDigits : Nat → List Char → Read (List Char)
  | 0, digits => return digits
  | count + 1, digits => do
    unless digits.isEmpty do
      unless ← advance do fail .escapeUnfinished (← place) (← place)
    let here ← place
    match ← next? with
    | some c => if isHex c then hexDigits count (digits ++ [c]) else fail .hexDigit here (here + 1)
    | none => fail .escapeUnfinished here here

/-- Hexadecimal digits up to a closing brace. -/
def hexBraced : Nat → List Char → Read (List Char)
  | 0, digits => return digits
  | fuel + 1, digits => do
    if ← advance then
      let here ← place
      match ← next? with
      | some c =>
        if c = '\x7d' then return digits
        else if isHex c then hexBraced fuel (digits ++ [c])
        else fail .hexDigit here (here + 1)
      | none => return digits
    else return digits

/-- A character by its number, behind the letter that begins it. -/
def hexLiteral (count : Nat) : Read Primitive := do
  unless ← advance do fail .escapeUnfinished (← place) (← place)
  let start ← place
  if (← next?) = some '\x7b' then
    let digits ← hexBraced ((← get).text.size + 1) []
    let stop ← place
    if (← next?).isNone then fail .escapeUnfinished start stop
    let _ ← advance
    if digits.isEmpty then fail .hexEmpty start (← place)
    match charOf? (hexValue digits) with
    | some c => return .literal c
    | none => fail .hexNoCharacter (start + 1) stop
  else
    let digits ← hexDigits count []
    let _ ← advance
    match charOf? (hexValue digits) with
    | some c => return .literal c
    | none => fail .hexNoCharacter start (← place)

/-- The text of a name in braces, up to the closing one. -/
def bracedName : Nat → List Char → Read (List Char)
  | 0, name => return name
  | fuel + 1, name => do
    if ← advance then
      match ← next? with
      | some c => if c = '\x7d' then return name else bracedName fuel (name ++ [c])
      | none => return name
    else return name

/-- The set of a property by its written name: with a value behind `=` or `:`, the value says it. -/
def propertySet? (name : List Char) : Option CharSet :=
  let value (sep : Char) : Option (List Char) :=
    match cutAt sep name with
    | [_, value] => some value
    | _ => none
  match value '=' <|> value ':' with
  | some v => CharSet.ofProperty? (String.ofList v)
  | none => CharSet.ofProperty? (String.ofList name)

/-- A set of characters with a property, behind the backslash at `start`. -/
def property (start : Nat) (negated : Bool) : Read Primitive := do
  unless ← advance do fail .escapeUnfinished (← place) (← place)
  let here ← place
  let name ← match ← next? with
    | some '\x7b' => do
      let name ← bracedName ((← get).text.size + 1) []
      if (← next?).isNone then fail .escapeUnfinished (← place) (← place)
      skip
      pure name
    | some '\\' => fail .propertyInvalid here (here + 1)
    | c => do
      let _ ← advance
      pure c.toList
  let (name, negated) := match name.reverse.dropWhile (· ≠ '=') with
    | '=' :: '!' :: _ => (name.filter (· ≠ '!'), !negated)
    | _ => (name, negated)
  match propertySet? name with
  | some s => return .set (if negated then .compl s else s)
  | none =>
    blame .propertyUnknown start (← place)
    return .set .empty

/-- The set of a class with a letter. -/
def classOf (unicode : Bool) (letter : Char) : CharSet :=
  let named (s : CharSet) (ascii : String) : CharSet :=
    if unicode then s else (CharSet.ofClass? ascii).getD .empty
  match letter.toLower with
  | 'd' => named .digit "digit"
  | 's' => named .blank "space"
  | _ => named .word "word"

/-- An edge of a word that has a name in braces, behind `\b`. What is no name is left for a count of
repetitions. -/
def namedWordEdge? (word : CharSet) (start : Nat) : Read (Option Edge) := do
  let isNameChar (c : Char) : Bool := c.isAlpha || c = '-'
  let brace ← place
  unless ← advance do fail .wordEdgeUnfinished start (← place)
  let here ← place
  let r ← get
  unless (r.text[here]?).any isNameChar do
    goTo brace
    return none
  let name := (r.text.toList.drop here).takeWhile isNameChar
  goTo (here + name.length)
  skipSpace
  let stop ← place
  unless (← next?) = some '\x7d' do fail .wordEdgeUnclosed brace stop
  skip
  match String.ofList name with
  | "start" => return some (.wordStart word)
  | "end" => return some (.wordEnd word)
  | "start-half" => return some (.noWordBefore word)
  | "end-half" => return some (.noWordAfter word)
  | _ => fail .wordEdgeUnknown here stop

/-- What a backslash begins. -/
def escape : Read Primitive := do
  let start ← place
  skip
  let flags := (← get).flags
  let word := classOf flags.unicode 'w'
  match ← next? with
  | none => fail .escapeUnfinished start (← place)
  | some c =>
    if c.isDigit then fail .backreference start (start + 2)
    else if c = 'x' then hexLiteral 2
    else if c = 'u' then hexLiteral 4
    else if c = 'U' then hexLiteral 8
    else if c = 'p' || c = 'P' then property start (c = 'P')
    else if ['d', 's', 'w', 'D', 'S', 'W'].contains c then
      skip
      let set := classOf flags.unicode c
      if c.isLower then return .set set
      unless flags.unicode do blame .noText start (start + 2)
      return .set (.compl set)
    else
      skip
      if isEscapable c then return .literal c
      match c with
      | 'a' => return .literal '\x07'
      | 'f' => return .literal '\x0c'
      | 't' => return .literal '\t'
      | 'n' => return .literal '\n'
      | 'r' => return .literal '\r'
      | 'v' => return .literal '\x0b'
      | 'A' => return .edge .textStart
      | 'z' => return .edge .textEnd
      | 'B' => return .edge (.noWordEdge word)
      | '<' => return .edge (.wordStart word)
      | '>' => return .edge (.wordEnd word)
      | 'b' =>
        if (← next?) = some '\x7b' then
          return .edge ((← namedWordEdge? word start).getD (.wordEdge word))
        return .edge (.wordEdge word)
      | _ => fail .escapeUnknown start (start + 2)

/-! ## Sets -/

/-- A set operation of which the left side is known. -/
inductive Pending
  | inter (left : CharSet)
  | minus (left : CharSet)
  | apart (left : CharSet)

/-- The left side of an operation, or nothing, put together with its right side. -/
def complete (pending : Option Pending) (right : CharSet) : CharSet :=
  match pending with
  | none => right
  | some (.inter left) => .inter left right
  | some (.minus left) => .inter left (.compl right)
  | some (.apart left) => .symmDiff left right

/-- A primitive within a set. -/
def setItem : Read Primitive := do
  match ← next? with
  | some '\\' => escape
  | some c => do
    skip
    return .literal c
  | none => return .set .empty

/-- A class with a name between `[:` and `:]`, if one comes next. -/
def namedClass? : Read (Option CharSet) := do
  let r ← get
  let rest := r.text.toList.drop r.place
  match rest with
  | '[' :: ':' :: inner =>
    let (negated, inner) := match inner with
      | '^' :: inner => (true, inner)
      | inner => (false, inner)
    let name := inner.takeWhile (· ≠ ':')
    match inner.drop name.length, CharSet.ofClass? (String.ofList name) with
    | ':' :: ']' :: after, some s =>
      goTo (r.text.size - after.length)
      return some (if negated then .compl s else s)
    | _, _ => return none
  | _ => return none

/-- One character, a range of them, or a class, within a set that began at `opening`. -/
def setRange (opening : Span) : Read CharSet := do
  let unclosed {α : Type} : Read α := fail .setUnclosed opening.first opening.last
  let start ← place
  let low ← setItem
  let lowEnd ← place
  skipSpace
  if (← next?).isNone then unclosed
  let beyond ← beyond?
  if (← next?) ≠ some '-' || beyond = some ']' || beyond = some '-' then
    match low with
    | .literal c => return .single c
    | .set s => return s
    | _ => fail .escapeInSet start lowEnd
  unless ← advance do unclosed
  let middle ← place
  let high ← setItem
  let stop ← place
  match low, high with
  | .literal a, .literal b =>
    if b < a then fail .rangeReversed start stop
    return .range a b
  | .literal _, _ => fail .rangeOfSets middle stop
  | _, _ => fail .rangeOfSets start lowEnd

/-- The hyphens that a set begins with. -/
def leadingHyphens (start : Nat) : Nat → Bool → Read Bool
  | 0, some_ => return some_
  | fuel + 1, some_ => do
    if (← next?) = some '-' then
      unless ← advance do fail .setUnclosed start start
      leadingHyphens start fuel true
    else return some_

mutual

/-- A set in brackets. -/
def bracketed : Nat → Read CharSet
  | 0 => return .empty
  | fuel + 1 => do
    let start ← place
    unless ← advance do fail .setUnclosed start (← place)
    let negated := (← next?) = some '^'
    if negated then
      unless ← advance do fail .setUnclosed start (← place)
    let hyphens ← leadingHyphens start (← get).text.size false
    let bracket := !hyphens && (← next?) = some ']'
    if bracket then
      unless ← advance do fail .setUnclosed start (← place)
    let first : CharSet :=
      if hyphens then .single '-' else if bracket then .single ']' else .empty
    let set ← setParts fuel ⟨start, ← place⟩ none first
    if negated then
      unless (← get).flags.unicode do blame .noText start (← place)
      return .compl set
    return set

/-- What stands in a set, up to the bracket that closes it. -/
def setParts : Nat → Span → Option Pending → CharSet → Read CharSet
  | 0, _, _, found => return found
  | fuel + 1, opening, pending, found => do
    skipSpace
    let right := cased (← get).flags found
    match ← next? with
    | none => fail .setUnclosed opening.first opening.last
    | some '[' =>
      match ← namedClass? with
      | some s => setParts fuel opening pending (.union found s)
      | none => do
        let s ← bracketed fuel
        setParts fuel opening pending (.union found s)
    | some ']' =>
      skip
      return complete pending right
    | some _ =>
      if ← accept "&&" then setParts fuel opening (some (.inter (complete pending right))) .empty
      else if ← accept "--" then
        setParts fuel opening (some (.minus (complete pending right))) .empty
      else if ← accept "~~" then
        setParts fuel opening (some (.apart (complete pending right))) .empty
      else
        let s ← setRange opening
        setParts fuel opening pending (.union found s)

end

/-! ## Repetitions -/

/-- Blanks, whatever the flags. -/
def skipBlanks : Nat → Read Unit
  | 0 => return ()
  | fuel + 1 => do
    if (← next?).any isBlank then
      skip
      skipBlanks fuel

/-- The digits that come next. -/
def digitRow : Nat → List Char → Read (List Char)
  | 0, digits => return digits
  | fuel + 1, digits => do
    match ← next? with
    | some c =>
      if c.isDigit then
        let _ ← advance
        digitRow fuel (digits ++ [c])
      else return digits
    | none => return digits

/-- A number of repetitions, or the mistake in place of one. -/
def count : Read (Except Mistake Nat) := do
  let fuel := (← get).text.size + 1
  skipBlanks fuel
  let start ← place
  let digits ← digitRow fuel []
  let span : Span := ⟨start, ← place⟩
  skipBlanks fuel
  match digits? digits with
  | none => return .error { kind := .countMissing, span }
  | some n => return if n < Nat.pow 2 32 then .ok n else .error { kind := .countTooLarge, span }

/-- The bounds between braces, behind the opening one at `start`. -/
def bounds (start : Nat) : Read (Nat × Option Nat) := do
  let unclosed {α : Type} : Read α := do fail .countUnclosed start (← place)
  unless ← advance do unclosed
  let least ← count
  match ← next? with
  | none => unclosed
  | some ',' =>
    unless ← advance do unclosed
    if (← next?) = some '\x7d' then return (← liftExcept least, none)
    let least ← liftExcept least
    let most ← liftExcept (← count)
    return (least, some most)
  | some _ =>
    let n ← liftExcept least
    return (n, some n)
where
  /-- The number, or the end of reading. -/
  liftExcept (n : Except Mistake Nat) : Read Nat :=
    match n with
    | .ok n => return n
    | .error m => throw m

/-- A repetition of what was read last; nothing can be repeated that is no pattern. -/
def repetition (body : Option Pattern) (c : Char) : Read Pattern := do
  let start ← place
  match body with
  | none => fail .repetitionMissing start start
  | some body =>
    let lazily : Read Unit := do
      if (← next?) = some '?' then skip
    if c = '\x7b' then
      let (least, most) ← bounds start
      unless (← next?) = some '\x7d' do fail .countUnclosed start (← place)
      if ← advance then lazily
      if most.any (· < least) then fail .countReversed start (← place)
      return .repeated body least most
    else
      skip
      lazily
      match c with
      | '?' => return .repeated body 0 (some 1)
      | '*' => return .repeated body 0 none
      | _ => return .repeated body 1 none

/-! ## Groups -/

/-- Sets a flag by its letter. -/
def setFlag (letter : Char) (value : Bool) (f : Flags) : Flags :=
  match letter with
  | 'i' => { f with ignoreCase := value }
  | 'm' => { f with lines := value }
  | 's' => { f with dotAll := value }
  | 'R' => { f with returns := value }
  | 'u' => { f with unicode := value }
  | 'x' => { f with spaced := value }
  | _ => f

/-- Flags up to `:` or `)`: those read so far with their places, and the last of them. -/
def flagRow : Nat → List (Char × Nat) → Read (List (Char × Nat))
  | 0, found => return found
  | fuel + 1, found => do
    let here ← place
    match ← next? with
    | none => fail .flagMissing here here
    | some c =>
      if c = ':' || c = ')' then
        match found.getLast? with
        | some ('-', at_) => fail .flagNegationDangling at_ (at_ + 1)
        | _ => return found
      else
        unless ['i', 'm', 's', 'U', 'u', 'R', 'x', '-'].contains c do
          fail .flagUnknown here (here + 1)
        if let some before := found.lookup c then
          throw
            { kind := if c = '-' then .flagNegatedTwice else .flagTwice
              span := ⟨here, here + 1⟩, other := some ⟨before, before + 1⟩ }
        skip
        flagRow fuel (found ++ [(c, here)])

/-- The flags after a row of letters. Those behind a hyphen are taken back. -/
def applyFlags (letters : List Char) (f : Flags) : Flags :=
  let on := letters.takeWhile (· ≠ '-')
  let off := letters.drop (on.length + 1)
  off.foldl (fun f c => setFlag c false f) (on.foldl (fun f c => setFlag c true f) f)

/-- Whether a character may stand in the name of a group. -/
def isGroupNameChar (first : Bool) (c : Char) : Bool :=
  c = '_' || CharSet.holds (.ranges (rangesOf CharTable.letterText)) c ||
    (!first && (['.', '[', ']'].contains c ||
      CharSet.holds (.ranges (rangesOf CharTable.numberText)) c))

/-- The name of a group up to `>`. -/
def groupName (start : Nat) : Nat → List Char → Read (List Char)
  | 0, name => return name
  | fuel + 1, name => do
    let here ← place
    match ← next? with
    | none => fail .groupNameUnclosed here here
    | some c =>
      if c = '>' then
        skip
        if name.isEmpty then fail .groupNameEmpty start start
        return name
      else if isGroupNameChar name.isEmpty c then
        skip
        groupName start fuel (name ++ [c])
      else fail .groupNameInvalid here (here + 1)

/-- What an opening parenthesis begins. -/
inductive Opening
  /-- Flags for the rest of the part around it. -/
  | flags (f : Flags)
  /-- A part with a number, or none. -/
  | part (number : Option Nat) (flags : Flags)

/-- Reads what stands behind the opening parenthesis at `start`. -/
def opening (start : Nat) : Read Opening := do
  skip
  skipSpace
  let outer := (← get).flags
  let inner ← place
  if (← accept "?=") || (← accept "?!") || (← accept "?<=") || (← accept "?<!") then
    fail .lookAround start (← place)
  let numbered : Read Opening := do
    let r ← get
    set { r with groups := r.groups + 1 }
    return .part (some (r.groups + 1)) outer
  if (← accept "?P<") || (← accept "?<") then
    let here ← place
    let name ← groupName here ((← get).text.size + 1) []
    let span : Span := ⟨here, here + name.length⟩
    let r ← get
    if let some before := r.names.lookup name then
      throw { kind := .groupNameTwice, span, other := some before }
    set { r with names := (name, span) :: r.names }
    numbered
  else if ← accept "?" then
    if (← next?).isNone then fail .groupUnclosed start (start + 1)
    let letters ← flagRow ((← get).text.size + 1) []
    let closing := (← next?) = some ')'
    skip
    let flags := applyFlags (letters.map (·.1)) outer
    if closing then
      if letters.isEmpty then fail .repetitionMissing inner inner
      return .flags flags
    return .part none flags
  else numbered

mutual

/-- The alternatives up to a closing parenthesis or the end. -/
def alternatives : Nat → Read Pattern
  | 0 => return .nothing
  | fuel + 1 => do
    let first ← row fuel [] none
    if (← next?) = some '|' then
      skip
      return .either first (← alternatives fuel)
    return first

/-- Patterns in a row. The last one is held back, as a repetition may follow. -/
def row : Nat → List Pattern → Option Pattern → Read Pattern
  | 0, done, _ => return .ofList done.reverse
  | fuel + 1, done, last => do
    skipSpace
    let here ← place
    let all := last.toList ++ done
    let flags := (← get).flags
    match ← next? with
    | none => return .ofList all.reverse
    | some c =>
      match c with
      | '|' => return .ofList all.reverse
      | ')' => return .ofList all.reverse
      | '(' =>
        match ← opening here with
        | .flags f =>
          modify fun r => { r with flags := f }
          row fuel all none
        | .part number inner =>
          modify fun r => { r with flags := inner }
          let body ← alternatives fuel
          unless (← next?) = some ')' do fail .groupUnclosed here (here + 1)
          skip
          modify fun r => { r with flags }
          row fuel all (some (number.elim body (.group · body)))
      | '[' => do
        let set ← bracketed fuel
        row fuel all (some (.one set))
      | '\\' => do
        let p ← escape
        row fuel all (some (p.pattern flags))
      | '.' =>
        unless flags.unicode do blame .noText here (here + 1)
        skip
        row fuel all (some (Primitive.dot.pattern flags))
      | '^' =>
        skip
        row fuel all (some (.edge (if flags.lines then .lineStart flags.returns else .textStart)))
      | '$' =>
        skip
        row fuel all (some (.edge (if flags.lines then .lineEnd flags.returns else .textEnd)))
      | c =>
        if ['?', '*', '+', '\x7b'].contains c then
          let p ← repetition last c
          row fuel done (some p)
        else
          skip
          row fuel all (some ((Primitive.literal c).pattern flags))

end

/-- The pattern of an expression, or the mistake in it. -/
def read (text : List Char) : Except Mistake Pattern := do
  let whole : Read Pattern := do
    let p ← alternatives (2 * text.length + 2)
    let here ← place
    if (← next?).isSome then fail .groupUnopened here (here + 1)
    return p
  let (p, r) ← whole.run { text := text.toArray }
  match r.later with
  | some m => throw m
  | none => return p

end Testbed.Text.Pattern.Expression
