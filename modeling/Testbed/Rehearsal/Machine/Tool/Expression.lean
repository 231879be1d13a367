import Testbed.Text.Numeral
import Testbed.Text.Pattern
/-!
# Regular expressions

Patterns as `grep`, `sed` and `expr` write them, in two styles: in the extended one, parentheses,
braces and some other signs are operators by themselves, in the basic one only behind a backslash.
-/
namespace Testbed.Rehearsal.Machine.Expression

open Text (Pattern CharSet Edge)

/-- What is wrong with an expression. -/
inductive Mistake
  | bracket
  | parenthesis
  | closing
  | brace
  | braceContent
  | range
  | trailing
  | reference
  | className
  | repetition
  | tooBig
  | invalid
  /-- A class outside of a set. -/
  | bareClass
  deriving DecidableEq, Repr

def Mistake.message : Mistake → String
  | .bracket => "Unmatched [, [^, [:, [., or [="
  | .parenthesis => "Unmatched ( or \\("
  | .closing => "Unmatched ) or \\)"
  | .brace => "Unmatched \\\x7b"
  | .braceContent => "Invalid content of \\\x7b\\\x7d"
  | .range => "Invalid range end"
  | .trailing => "Trailing backslash"
  | .reference => "Invalid back reference"
  | .className => "Invalid character class name"
  | .repetition => "Invalid preceding regular expression"
  | .tooBig => "Regular expression too big"
  | .invalid => "Invalid regular expression"
  | .bareClass => "character class syntax is [[:space:]], not [:space:]"

/-- How an expression is read. -/
structure Style where
  extended : Bool := false
  ignoreCase : Bool := false
  /-- Whether the beginning and the end of each line count, not those of the text alone. -/
  lines : Bool := false
  /-- Whether a sign that has nothing to repeat is a mistake. -/
  strict : Bool := false

/-- The letters in the other case. -/
def otherCase (c : Char) : Char := if c.isUpper then c.toLower else c.toUpper

/-- The letters of the portable character set. -/
def letters : List Char :=
  (List.range 26).flatMap fun n => [Char.ofNat (0x41 + n), Char.ofNat (0x61 + n)]

/-- A set with the letters in the other case. -/
def folded (s : Style) (set : CharSet) : CharSet :=
  if s.ignoreCase then .union set (.ofChars (letters.filter fun c => set.holds (otherCase c)))
  else set

def wordSet : CharSet := .ranges [(0x30, 0x39), (0x41, 0x5a), (0x5f, 0x5f), (0x61, 0x7a)]

def spaceSet : CharSet := .ranges [(9, 13), (32, 32)]

abbrev Reader (α : Type) := StateT (List Char) (Except Mistake) α

/-- One member of a set in brackets: a character or a class. -/
def member : Reader (Char ⊕ CharSet) := do
  match ← get with
  | '[' :: kind :: rest =>
    if kind = ':' || kind = '.' || kind = '=' then
      let name := rest.takeWhile (· ≠ kind)
      match rest.drop name.length with
      | _ :: ']' :: behind =>
        set behind
        if kind = ':' then
          match CharSet.ofClass? (String.ofList name) with
          | some s => return .inr s
          | none => throw .className
        else match name with
          | [c] => return .inl c
          | _ => throw .className
      | _ => throw .bracket
    else
      set (kind :: rest)
      return .inl '['
  | c :: rest =>
    set rest
    return .inl c
  | [] => throw .bracket

/-- The members of a set up to the closing bracket. -/
def members : Nat → Bool → CharSet → Reader CharSet
  | 0, _, _ => throw .bracket
  | fuel + 1, first, found => do
    match ← get with
    | [] => throw .bracket
    | ']' :: rest =>
      if first then one fuel found
      else
        set rest
        return found
    | _ => one fuel found
where
  one (fuel : Nat) (found : CharSet) : Reader CharSet := do
    match ← member with
    | .inr s => members fuel false (.union found s)
    | .inl c =>
      match ← get with
      | '-' :: ']' :: _ => members fuel false (.union found (.single c))
      | '-' :: rest =>
        set rest
        match ← member with
        | .inl last =>
          if last < c then throw .range
          members fuel false (.union found (.range c last))
        | .inr _ => throw .range
      | _ => members fuel false (.union found (.single c))

/-- A set in brackets, behind the opening one. -/
def bracket (s : Style) : Reader CharSet := do
  let cs ← get
  if cs.isEmpty || cs = ['^'] then throw .invalid
  let inside := cs.takeWhile (· ≠ ']')
  let isBare := cs.head? = some ':' && 1 < inside.length && inside.getLast? = some ':'
  if isBare && inside.length < cs.length then throw .bareClass
  match cs with
  | '^' :: rest =>
    set rest
    return .compl (folded s (← members (cs.length + 1) true .empty))
  | _ => return folded s (← members (cs.length + 1) true .empty)

/-- The bounds of a repetition up to the closing brace. Nothing is read if there are none. -/
def bounds? (extended strict : Bool) (cs : List Char) :
    Except Mistake (Option ((Nat × Option Nat) × List Char)) :=
  let low := cs.takeWhile Char.isDigit
  let rest := cs.drop low.length
  let (high, rest) : Option (List Char) × List Char := match rest with
    | ',' :: more => (some (more.takeWhile Char.isDigit), more.dropWhile Char.isDigit)
    | rest => (none, rest)
  let closed := match extended, rest with
    | true, '\x7d' :: rest => some rest
    | false, '\\' :: '\x7d' :: rest => some rest
    | _, _ => none
  match closed with
  | none =>
    if extended && !strict then .ok none
    else .error (if rest.isEmpty then .brace else .braceContent)
  | some rest =>
    if low.isEmpty && high.isNone then
      if extended && !strict then .ok none else .error .braceContent
    else
      let least := (Text.digits? low).getD 0
      let most : Option Nat := match high with
        | none => some least
        | some [] => none
        | some digits => Text.digits? digits
      if most.any (· < least) then .error .braceContent
      else if 32767 < max least (most.getD 0) then .error .tooBig
      else .ok (some ((least, most), rest))

/-- Where the reader is: the number of the next group, and how deep it is in groups. -/
structure Place where
  groups : Nat := 1
  closed : List Nat := []
  /-- Signs that have nothing to repeat. -/
  idle : List String := []
  deriving Inhabited

abbrev Parse (α : Type) := StateT Place (StateT (List Char) (Except Mistake)) α

def peek : Parse (List Char) := StateT.lift get

def jump (cs : List Char) : Parse Unit := StateT.lift (set cs)

def literal (s : Style) (c : Char) : Pattern := .one (folded s (.single c))

/-- What a sign means. -/
inductive Sign
  | opening
  | closing
  | alternative
  | repeats (least : Nat) (most : Option Nat)
  | brace
  | any
  | startOfLine
  | endOfLine
  | bracket
  | escape (c : Char)
  | char (c : Char)
  | finish

/-- The next sign, and what follows it. `first` tells that nothing stands before it to repeat. -/
def sign (s : Style) (first : Bool) (cs : List Char) : Except Mistake (Sign × List Char) :=
  match cs with
  | [] => .ok (.finish, [])
  | '\\' :: rest =>
    match rest with
    | [] => .error .trailing
    | c :: rest =>
      let basic (sign : Sign) : Except Mistake (Sign × List Char) :=
        .ok (if s.extended then .char c else sign, rest)
      match c with
      | '(' => basic .opening
      | ')' => basic .closing
      | '|' => basic .alternative
      | '\x7b' => basic .brace
      | '+' => basic (.repeats 1 none)
      | '?' => basic (.repeats 0 (some 1))
      | c => .ok (.escape c, rest)
  | c :: rest =>
    let extended (sign : Sign) : Except Mistake (Sign × List Char) :=
      .ok (if s.extended then sign else .char c, rest)
    match c with
    | '.' => .ok (.any, rest)
    | '[' => .ok (.bracket, rest)
    | '*' => .ok (if first && !s.extended then .char c else .repeats 0 none, rest)
    | '(' => extended .opening
    | ')' => extended .closing
    | '|' => extended .alternative
    | '\x7b' => extended .brace
    | '+' => extended (.repeats 1 none)
    | '?' => extended (.repeats 0 (some 1))
    | '^' => .ok (if s.extended || first then .startOfLine else .char c, rest)
    | '$' =>
      let atEnd := rest.isEmpty || Text.startsWith ['\\', ')'] rest ||
        Text.startsWith ['\\', '|'] rest
      .ok (if s.extended || atEnd then .endOfLine else .char c, rest)
    | c => .ok (.char c, rest)

mutual

/-- Alternatives, up to the end or a closing parenthesis. -/
def alternatives (s : Style) : Nat → Nat → Parse Pattern
  | 0, _ => throw .parenthesis
  | fuel + 1, depth => do
    let first ← row s fuel depth none
    match sign s false (← peek) with
    | .ok (.alternative, rest) =>
      jump rest
      return .either first (← alternatives s fuel depth)
    | _ => return first

/-- Parts one after another; `before` is the last one so far. -/
def row (s : Style) : Nat → Nat → Option Pattern → Parse Pattern
  | 0, _, _ => throw .parenthesis
  | fuel + 1, depth, before => do
    let cs ← peek
    let begins := match before with
      | none => true
      | some (.edge (.lineStart _)) => !s.extended
      | some (.edge .textStart) => !s.extended
      | _ => false
    let (sign, rest) ← (sign s begins cs : Except Mistake _)
    let done : Pattern := before.getD .nothing
    -- what was there before stays, and a new part is the last one
    let next (p : Pattern) (rest : List Char) : Parse Pattern := do
      jump rest
      match before with
      | none => row s fuel depth (some p)
      | some q => return .sequence q (← row s fuel depth (some p))
    let again (least : Nat) (most : Option Nat) (rest : List Char) (shown : String) :
        Parse Pattern := do
      jump rest
      match before with
      | none =>
        if s.strict then throw .repetition
        modify fun p => { p with idle := p.idle ++ [shown] }
        row s fuel depth none
      | some (.repeated _ _ _) =>
        if s.strict && !s.extended then throw .repetition
        row s fuel depth (before.map (.repeated · least most))
      | some q => row s fuel depth (some (.repeated q least most))
    match sign with
    | .finish => return done
    | .alternative => return done
    | .closing =>
      if 0 < depth then return done
      if s.extended && !s.strict then next (literal s ')') rest else throw .closing
    | .opening =>
      jump rest
      let number := (← get).groups
      modify fun p => { p with groups := number + 1 }
      let inner ← alternatives s fuel (depth + 1)
      match Expression.sign s false (← peek) with
      | .ok (.closing, rest) =>
        modify fun p => { p with closed := number :: p.closed }
        next (.group number inner) rest
      | .error e => throw e
      | _ => throw .parenthesis
    | .repeats least most =>
      let shown := String.ofList (cs.take (cs.length - rest.length))
      if begins && !s.extended then next (.ofList (shown.toList.map (literal s))) rest
      else again least most rest shown
    | .brace =>
      match ← (bounds? s.extended s.strict rest : Except Mistake _) with
      | some ((least, most), rest) =>
        if begins && !s.extended then
          if s.strict then throw .repetition
          next (.ofList ((cs.take (cs.length - rest.length)).map (literal s))) rest
        else again least most rest "\x7b...\x7d"
      | none => next (literal s '\x7b') rest
    | .any => next (.one .full) rest
    | .startOfLine => next (.edge (if s.lines then .lineStart false else .textStart)) rest
    | .endOfLine => next (.edge (if s.lines then .lineEnd false else .textEnd)) rest
    | .bracket =>
      match (bracket s).run rest with
      | .ok (set, rest) => next (.one set) rest
      | .error e => throw e
    | .char c => next (literal s c) rest
    | .escape c =>
      match c with
      | 'w' => next (.one wordSet) rest
      | 'W' => next (.one (.compl wordSet)) rest
      | 's' => next (.one spaceSet) rest
      | 'S' => next (.one (.compl spaceSet)) rest
      | 'b' => next (.edge (.wordEdge wordSet)) rest
      | 'B' => next (.edge (.noWordEdge wordSet)) rest
      | '<' => next (.edge (.wordStart wordSet)) rest
      | '>' => next (.edge (.wordEnd wordSet)) rest
      | '\x60' => next (.edge .textStart) rest
      | '\'' => next (.edge .textEnd) rest
      | c =>
        if '1' ≤ c && c ≤ '9' then
          let number := c.toNat - '0'.toNat
          unless (← get).closed.contains number do throw .reference
          next (.again number) rest
        else next (literal s c) rest

end

/-- What an expression writes. -/
structure Written where
  pattern : Pattern
  groups : Nat
  /-- The signs in it that have nothing to repeat. -/
  idle : List String

def read (s : Style) (text : List Char) : Except Mistake Written := do
  let ((p, place), rest) ← ((alternatives s (4 * text.length + 8) 0).run {}).run text
  if rest.isEmpty then return ⟨p, place.groups - 1, place.idle⟩ else throw .closing

end Testbed.Rehearsal.Machine.Expression
