import Testbed.Rehearsal.Machine.Tool.Reading
import Testbed.Rehearsal.Machine.Tool.Sed.Script
/-!
# Reading scripts for editing a stream

A script is read command by command. What is wrong with it is told with the place where it was
found: the number of the expression and how much of it was read.
-/
namespace Testbed.Rehearsal.Machine.Tool.Sed

open Act

open Text (Pattern)

/-- Where the reader is in a script. -/
structure Place where
  rest : List Char
  used : Nat := 0
  /-- How many commands there are by now, and which of them begin blocks that are open. -/
  commands : Array Command := #[]
  open_ : List Nat := []
  extended : Bool := false

abbrev Parse (α : Type) := StateT Place (Except (Nat × String)) α

def fault {α : Type} (text : String) : Parse α := do throw ((← get).used, text)

def peek? : Parse (Option Char) := do return (← get).rest.head?

def take? : Parse (Option Char) := do
  let p ← get
  match p.rest with
  | [] => return none
  | c :: rest =>
    set { p with rest, used := p.used + 1 }
    return some c

/-- Takes characters as long as they are of a kind. -/
def takeRow (accepts : Char → Bool) : Parse (List Char) := do
  let p ← get
  let row := p.rest.takeWhile accepts
  set { p with rest := p.rest.drop row.length, used := p.used + row.length }
  return row

def isBlank (c : Char) : Bool := c = ' ' || c = '\t'

def takeNumber : Parse Nat := do return (Text.digits? (← takeRow Char.isDigit)).getD 0

/-- A text up to a mark. A backslash takes the meaning of the mark; other backslashes stay. In an
expression, brackets are not looked at. -/
def upTo (mark : Char) (expression : Bool) : Nat → Parse (Option (List Char))
  | 0 => return none
  | fuel + 1 => do
    match ← take? with
    | none => return none
    | some c =>
      if c = mark then return some []
      else if c = '\\' then
        match ← take? with
        | none => return none
        | some d =>
          let rest ← upTo mark expression fuel
          return rest.map fun rest =>
            if d = mark then
              if expression && mark = 'n' then '\\' :: d :: rest else d :: rest
            else if d = 'n' && expression then '\n' :: rest
            else '\\' :: d :: rest
      else if c = '\n' && expression then return none
      else if c = '[' && expression then
        let inside ← setRow
        let rest ← upTo mark expression fuel
        return rest.map (c :: inside ++ ·)
      else
        let rest ← upTo mark expression fuel
        return rest.map (c :: ·)
where
  /-- The rest of a set in brackets, in which no mark counts. Without an end it is no set. -/
  setRow : Parse (List Char) := do
    let cs := (← get).rest
    let front := match cs with
      | '^' :: ']' :: _ => 2
      | ']' :: _ => 1
      | _ => 0
    let length := front + inSet (cs.length + 1) (cs.drop front)
    if length < cs.length then
      modify fun p => { p with rest := cs.drop length, used := p.used + length }
      return newlines (length + 1) (cs.take length)
    return []
  /-- How many characters there are up to the closing bracket. -/
  inSet : Nat → List Char → Nat
    | 0, _ => 0
    | fuel + 1, cs =>
      match cs with
      | [] => 1
      | ']' :: _ => 0
      | '[' :: kind :: rest =>
        if kind = ':' || kind = '.' || kind = '=' then
          let name := rest.takeWhile (· ≠ kind)
          match rest.drop name.length with
          | _ :: ']' :: behind => name.length + 4 + inSet fuel behind
          | _ => 1 + inSet fuel (kind :: rest)
        else 1 + inSet fuel (kind :: rest)
      | _ :: rest => 1 + inSet fuel rest
  newlines : Nat → List Char → List Char
    | 0, cs => cs
    | fuel + 1, cs =>
      match cs with
      | '\\' :: 'n' :: rest => '\n' :: newlines fuel rest
      | c :: rest => c :: newlines fuel rest
      | [] => []

/-- Letters behind a backslash that stand for characters. -/
def unescape : Nat → List Char → List Char
  | 0, cs => cs
  | fuel + 1, cs =>
    match cs with
    | '\\' :: 't' :: rest => '\t' :: unescape fuel rest
    | '\\' :: 'f' :: rest => '\x0c' :: unescape fuel rest
    | '\\' :: 'v' :: rest => '\x0b' :: unescape fuel rest
    | '\\' :: 'a' :: rest => '\x07' :: unescape fuel rest
    | '\\' :: 'r' :: rest => '\x0d' :: unescape fuel rest
    | '\\' :: c :: rest => '\\' :: c :: unescape fuel rest
    | c :: rest => c :: unescape fuel rest
    | [] => []

/-- The pattern of a text in a script. -/
def regexOf (text : List Char) (ignoreCase lines : Bool) : Parse (Regex × Nat) := do
  if text.isEmpty then return (none, 0)
  let style : Expression.Style :=
    { extended := (← get).extended, ignoreCase, lines, strict := true }
  match Expression.read style (unescape (text.length + 1) text) with
  | .ok w => return (some w.pattern, w.groups)
  | .error e => fault e.message

/-- The letters behind a pattern that is an address. -/
def addressFlags : Nat → Bool → Bool → Parse (Bool × Bool)
  | 0, i, m => return (i, m)
  | fuel + 1, i, m => do
    match ← peek? with
    | some 'I' =>
      let _ ← take?
      addressFlags fuel true m
    | some 'M' =>
      let _ ← take?
      addressFlags fuel i true
    | _ => return (i, m)

/-- An address, if one stands here. -/
def address? (second : Bool) : Parse (Option Address) := do
  let fuel := (← get).rest.length + 1
  let pattern (mark : Char) : Parse (Option Address) := do
    match ← upTo mark true fuel with
    | none => fault "unterminated address regex"
    | some text =>
      let (i, m) ← addressFlags 10 false false
      return some (.fits (← regexOf text i m).1)
  match ← peek? with
  | some '/' =>
    let _ ← take?
    pattern '/'
  | some '\\' =>
    let _ ← take?
    match ← take? with
    | some mark => pattern mark
    | none => fault "unexpected `,'"
  | some '$' =>
    let _ ← take?
    return some .lastLine
  | some c =>
    if c.isDigit then
      let n ← takeNumber
      let _ ← takeRow isBlank
      if (← peek?) = some '~' && !second then
        let _ ← take?
        return some (.every n (← takeNumber))
      return some (.line n)
    else if second && (c = '+' || c = '~') then
      let _ ← take?
      let n ← takeNumber
      return some (if c = '+' then .further n else .upTo n)
    else return none
  | none => return none

/-- The end of a command: nothing else may stand on its line. -/
def endCommand : Parse Unit := do
  let _ ← takeRow isBlank
  match ← peek? with
  | none => return ()
  | some '}' => return ()
  | some '#' => return ()
  | some c =>
    let _ ← take?
    unless c = '\n' || c = ';' do fault "extra characters after command"

/-- A text that a command adds: up to the end of the line, unless a backslash stands there. -/
def textRow : Nat → Parse (List Char)
  | 0 => return []
  | fuel + 1 => do
    match ← take? with
    | none => return []
    | some '\n' => return []
    | some '\\' =>
      match ← take? with
      | none => return []
      | some 't' => return '\t' :: (← textRow fuel)
      | some c => return c :: (← textRow fuel)
    | some c => return c :: (← textRow fuel)

def textOfCommand : Parse (List Char) := do
  let fuel := (← get).rest.length + 1
  let _ ← takeRow isBlank
  match ← peek? with
  | none => fault "expected \\ after `a', `c' or `i'"
  | some '\\' =>
    let _ ← take?
    let _ ← takeRow isBlank
    match ← peek? with
    | some '\n' =>
      let _ ← take?
      let p ← get
      if p.rest.isEmpty then fault "expected \\ after `a', `c' or `i'"
      return (← textRow fuel) ++ ['\n']
    | none => fault "expected \\ after `a', `c' or `i'"
    | some _ => return (← textRow fuel) ++ ['\n']
  | some _ => return (← textRow fuel) ++ ['\n']

/-- The name of a label, up to the end of the line or command. -/
def labelName : Parse String := do
  let _ ← takeRow isBlank
  let name ← takeRow fun c => c ≠ '\n' && c ≠ ';' && c ≠ '}'
  return String.ofList (name.reverse.dropWhile isBlank).reverse

def pathName : Parse String := do
  let _ ← takeRow isBlank
  let name ← takeRow (· ≠ '\n')
  if name.isEmpty then fault "missing filename in r/R/w/W commands"
  return String.ofList name

/-- The parts of a replacement. -/
def partsOf : Nat → List Char → List Part
  | 0, _ => []
  | fuel + 1, cs =>
    match cs with
    | [] => []
    | '&' :: rest => .group 0 :: partsOf fuel rest
    | '\\' :: c :: rest =>
      if c.isDigit then .group (c.toNat - '0'.toNat) :: partsOf fuel rest
      else if ['U', 'L', 'u', 'l', 'E'].contains c then .case c :: partsOf fuel rest
      else
        let d := match c with
          | 'n' => '\n'
          | 't' => '\t'
          | 'f' => '\x0c'
          | 'v' => '\x0b'
          | 'a' => '\x07'
          | 'r' => '\x0d'
          | c => c
        .text [d] :: partsOf fuel rest
    | c :: rest => .text [c] :: partsOf fuel rest

/-- The letters behind a substitution. -/
def substitutionFlags : Nat → Substitution → Bool → Bool → Bool →
    Parse (Substitution × Bool × Bool)
  | 0, s, _, i, m => return (s, i, m)
  | fuel + 1, s, numbered, i, m => do
    match ← peek? with
    | none => return (s, i, m)
    | some '}' => return (s, i, m)
    | some '#' => return (s, i, m)
    | some c =>
      if c.isDigit then
        if numbered then
          let _ ← take?
          fault "multiple number options to `s' command"
        let n ← takeNumber
        if n = 0 then fault "number option to `s' command may not be zero"
        substitutionFlags fuel { s with number := n } true i m
      else
        let _ ← take?
        match c with
        | '\n' => return (s, i, m)
        | ';' => return (s, i, m)
        | ' ' => substitutionFlags fuel s numbered i m
        | 'g' =>
          if s.all then fault "multiple `g' options to `s' command"
          substitutionFlags fuel { s with all := true } numbered i m
        | 'p' =>
          if s.prints then fault "multiple `p' options to `s' command"
          substitutionFlags fuel { s with prints := true } numbered i m
        | 'i' => substitutionFlags fuel s numbered true m
        | 'I' => substitutionFlags fuel s numbered true m
        | 'm' => substitutionFlags fuel s numbered i true
        | 'M' => substitutionFlags fuel s numbered i true
        | 'w' => return ({ s with file := some (← pathName) }, i, m)
        | _ => fault "unknown option to `s'"

def substitution : Parse Action := do
  let fuel := (← get).rest.length + 1
  let unfinished {α : Type} : Parse α := fault "unterminated `s' command"
  match ← take? with
  | none => unfinished
  | some mark =>
    match ← upTo mark true fuel with
    | none => unfinished
    | some regex =>
      match ← upTo mark false fuel with
      | none => unfinished
      | some replacement =>
        let parts := partsOf (replacement.length + 1) replacement
        let (s, i, m) ← substitutionFlags fuel { regex := none, parts } false false false
        let (regex, groups) ← regexOf regex i m
        let highest := parts.foldl (fun n p =>
          match p with
          | .group k => max n k
          | _ => n) 0
        if regex.isSome && groups < highest then
          let digits := Text.decimal highest
          fault ("invalid reference \\" ++ digits ++ " on `s' command's RHS")
        return .substitute { s with regex }

def transliteration : Parse Action := do
  let fuel := (← get).rest.length + 1
  let unfinished {α : Type} : Parse α := fault "unterminated `y' command"
  let plain : List Char → List Char := go fuel
  match ← take? with
  | none => unfinished
  | some mark =>
    match ← upTo mark false fuel with
    | none => unfinished
    | some source =>
      match ← upTo mark false fuel with
      | none => unfinished
      | some target =>
        let (source, target) := (plain source, plain target)
        if source.length ≠ target.length then
          fault "strings for `y' command are different lengths"
        endCommand
        return .transliterate (source.zip target)
where
  go : Nat → List Char → List Char
    | 0, cs => cs
    | fuel + 1, cs =>
      match cs with
      | '\\' :: '\\' :: rest => '\\' :: go fuel rest
      | '\\' :: 'n' :: rest => '\n' :: go fuel rest
      | '\\' :: 't' :: rest => '\t' :: go fuel rest
      | c :: rest => c :: go fuel rest
      | [] => []

/-- What a command does, by its letter. -/
def actionOf (c : Char) (addresses : Nat) : Parse Action := do
  let plain (a : Action) : Parse Action := do
    endCommand
    return a
  let code : Parse Nat := do
    let _ ← takeRow isBlank
    takeNumber
  match c with
  | '{' => return .block 0
  | '=' => plain .number
  | 'a' => return .append (← textOfCommand)
  | 'i' => return .insert (← textOfCommand)
  | 'c' => return .change (← textOfCommand)
  | ':' =>
    if 0 < addresses then fault ": doesn't want any addresses"
    let _ ← takeRow isBlank
    let name ← takeRow fun c => c ≠ '\n' && c ≠ ';'
    if name.isEmpty then fault "\":\" lacks a label"
    return .label (String.ofList (name.reverse.dropWhile isBlank).reverse)
  | 'b' => return .jump (← labelName)
  | 't' => return .jumpIf (← labelName) true
  | 'T' => return .jumpIf (← labelName) false
  | 'd' => plain .delete
  | 'D' => plain .deleteFirst
  | 'p' => plain .print
  | 'P' => plain .printFirst
  | 'h' => plain .hold
  | 'H' => plain .holdMore
  | 'g' => plain .get
  | 'G' => plain .getMore
  | 'x' => plain .exchange
  | 'n' => plain .next
  | 'N' => plain .nextMore
  | 'z' => plain .zap
  | 'F' => plain .fileName
  | 'q' =>
    if 1 < addresses then fault "command only uses one address"
    let n ← code
    plain (.quit n true)
  | 'Q' =>
    if 1 < addresses then fault "command only uses one address"
    let n ← code
    plain (.quit n false)
  | 'l' =>
    let _ ← takeRow isBlank
    let digits ← takeRow Char.isDigit
    plain (.list (Text.digits? digits))
  | 'r' => return .readFile (← pathName)
  | 'w' => return .writeFile (← pathName)
  | 's' => substitution
  | 'y' => transliteration
  | c => fault s!"unknown command: `{c}'"

/-- Reads commands up to the end of a text. -/
def commands : Nat → Parse Unit
  | 0 => return ()
  | fuel + 1 => do
    let _ ← takeRow fun c => isBlank c || c = '\n' || c = ';'
    if (← get).rest.isEmpty then return ()
    let first ← address? false
    let second ← match first with
      | none => pure none
      | some _ => do
        let _ ← takeRow isBlank
        if (← peek?) = some ',' then
          let _ ← take?
          let _ ← takeRow isBlank
          match ← address? true with
          | some a => pure (some a)
          | none => do
            let _ ← take?
            fault "unexpected `,'"
        else pure none
    let isPattern : Option Address → Bool
      | some (.fits _) => true
      | _ => false
    let _ ← takeRow isBlank
    let negated ← do
      if (← peek?) = some '!' then
        let _ ← takeRow fun c => c = '!' || isBlank c
        pure true
      else pure false
    let count := first.toList.length + second.toList.length
    let letter ← take?
    if first = some (.line 0) && !isPattern second then fault "invalid usage of line address 0"
    match letter with
    | none => fault "missing command"
    | some '#' =>
      if 0 < count then fault "comments don't accept any addresses"
      let _ ← takeRow (· ≠ '\n')
    | some '}' =>
      let p ← get
      match p.open_ with
      | [] => fault "unexpected `\x7d'"
      | start :: others =>
        if 0 < count then fault "\x7d doesn't want any addresses"
        let size := p.commands.size + 1
        let closed := p.commands.modify start ({ · with action := .block size })
        set { p with commands := closed.push {}, open_ := others }
        endCommand
    | some c =>
      let isClosing := c = '\n' || c = ';'
      if isClosing then fault "missing command"
      let action ← actionOf c count
      modify fun p =>
        { p with
          commands := p.commands.push { first, second, negated, action }
          open_ := match action with
            | .block _ => p.commands.size :: p.open_
            | _ => p.open_ }
    commands fuel

/-- Reads the texts that a script consists of. -/
def readScript (extended : Bool) (texts : List String) :
    Except (String × Nat) (Array Command) := do
  let start : Place := { rest := [], extended }
  let (p, _) ← texts.foldlM (fun (p, n) text => do
    let p := { p with rest := text.toList, used := 0 }
    match (commands (text.length + 1)).run p with
    | .ok ((), p) => return (p, n + 1)
    | .error (used, e) =>
      throw (s!"-e expression #{Text.decimal n}, char {Text.decimal used}: {e}", 1)) (start, 1)
  unless p.open_.isEmpty do throw ("-e expression #1, char 0: unmatched `\x7b'", 1)
  for c in p.commands do
    let target := match c.action with
      | .jump name => name
      | .jumpIf name _ => name
      | _ => ""
    let isThere := p.commands.any fun d =>
      match d.action with
      | .label name => name = target
      | _ => false
    unless target.isEmpty || isThere do
      throw ("can't find label for jump to `" ++ target ++ "'", 4)
  return p.commands

end Testbed.Rehearsal.Machine.Tool.Sed
