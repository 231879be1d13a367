import Testbed.Rehearsal.Machine.Shell.Source
/-!
# Reading words

A word is read piece by piece up to where it ends, and that depends on where it stands: `Mode` tells
what ends it and what a backslash or a quote means there.
-/
namespace Testbed.Rehearsal.Machine.Shell

open Parse

/-- Where pieces stand, and thus what ends them. -/
inductive Mode
  /-- Up to a blank or an operator. -/
  | word
  /-- As a word, but nothing in it is replaced. -/
  | delimiter
  /-- Up to a closing double quote. -/
  | double
  /-- Up to a closing brace. -/
  | brace
  /-- Up to a closing brace, within double quotes or a text that is treated as such. -/
  | quotedBrace
  /-- Up to two closing parentheses. -/
  | arithmetic (depth : Nat)
  /-- Up to the end of the text. -/
  | document

namespace Mode

/-- Whether what stands there is quoted. -/
def isQuoted : Mode → Bool
  | .word => false
  | .delimiter => false
  | .brace => false
  | _ => true

/-- Whether a backslash before a character takes its meaning; it stays itself otherwise. -/
def escapes : Mode → Char → Bool
  | .word, _ => true
  | .delimiter, _ => true
  | .brace, _ => true
  | .document, c => ['$', '\x60', '\\'].contains c
  | .quotedBrace, c => ['$', '\x60', '\\', '"', '\x7d'].contains c
  | _, c => ['$', '\x60', '\\', '"'].contains c

end Mode

def isOperatorChar (c : Char) : Bool := [';', '&', '|', '(', ')', '<', '>', '\n'].contains c

def isSpecialParameter (c : Char) : Bool :=
  ['*', '@', '#', '?', '-', '$', '!'].contains c || c.isDigit

/-- The characters up to a single quote, which is taken. -/
def singleQuoted : Nat → Parse (List Char)
  | 0 => fail "Unterminated quoted string"
  | fuel + 1 => do
    match ← take? with
    | none => fail "Unterminated quoted string"
    | some '\'' => return []
    | some c => return c :: (← singleQuoted fuel)

/-- The text between backquotes, without the backslashes that it needs there. -/
def backquoted (quoted : Bool) : Nat → Parse (List Char)
  | 0 => fail "EOF in backquote substitution"
  | fuel + 1 => do
    match ← take? with
    | none => fail "EOF in backquote substitution"
    | some '\x60' => return []
    | some '\\' =>
      match ← take? with
      | none => fail "EOF in backquote substitution"
      | some '\n' => backquoted quoted fuel
      | some c =>
        let rest ← backquoted quoted fuel
        return if ['\\', '\x60', '$'].contains c || (quoted && c = '"') then c :: rest
          else '\\' :: c :: rest
    | some c => return c :: (← backquoted quoted fuel)

/-- The characters of a name, or the digits of a number. -/
def nameRow (accepts : Char → Bool) : Nat → Parse (List Char)
  | 0 => return []
  | fuel + 1 => do
    match ← peek? with
    | some c =>
      if accepts c then
        let _ ← take?
        return c :: (← nameRow accepts fuel)
      else return []
    | none => return []

/-- The name of a parameter in braces, and whether its length is meant. -/
def bracedName : Parse (Option (String × Bool)) := do
  let fuel := (← get).rest.length + 1
  let simple : Parse (Option String) := do
    match ← peek? with
    | some c =>
      if isNameStart c then return some (String.ofList (← nameRow isNameChar fuel))
      else if c.isDigit then return some (String.ofList (← nameRow Char.isDigit fuel))
      else if isSpecialParameter c then
        let _ ← take?
        return some c.toString
      else return none
    | none => return none
  if ← accept '#' then
    match ← peek? with
    | some '\x7d' => return some ("#", false)
    | some c =>
      if isNameStart c || c.isDigit then return (← simple).map (·, true)
      let before ← get
      if isSpecialParameter c then
        let _ ← take?
        if (← peek?) = some '\x7d' then return some (c.toString, true)
        set before
      return some ("#", false)
    | none => return some ("#", false)
  else return (← simple).map (·, false)

/-- What is done with a parameter, behind its name in braces. -/
def use : Parse Use := do
  let how (blank : Bool) : Parse Use := do
    match ← peek? with
    | some c =>
      if ['-', '=', '?', '+'].contains c then
        let _ ← take?
        return .substitute c blank
      else return .unknown
    | none => return .unknown
  match ← peek? with
  | some '\x7d' => return .plain
  | some ':' => do
    let _ ← take?
    how true
  | some '%' => do
    let _ ← take?
    return .trim false (← accept '%')
  | some '#' => do
    let _ ← take?
    return .trim true (← accept '#')
  | _ => how false

/-- Reads pieces up to the end that their place asks for; also whether anything was quoted. `inner`
reads a script up to a closing parenthesis, and `whole` a script that is a text of its own. -/
def pieces (inner : Parse Script) (whole : List Char → Nat → Except SyntaxError Script) :
    Nat → Mode → Parse (Word × Bool)
  | 0, _ => fail "Unterminated quoted string"
  | fuel + 1, mode => do
    let quoted := mode.isQuoted
    let again (p : Piece) : Parse (Word × Bool) := do
      let (rest, q) ← pieces inner whole fuel mode
      return (p.cons rest, q)
    let againQuoted (p : Piece) : Parse (Word × Bool) := do
      let (rest, _) ← pieces inner whole fuel mode
      return (p.cons rest, true)
    let literal (c : Char) : Parse (Word × Bool) := again (.text [c] quoted)
    match ← take? with
    | none =>
      match mode with
      | .word => return ([], false)
      | .delimiter => return ([], false)
      | .document => return ([], false)
      | .brace => fail "Missing '\x7d'"
      | .arithmetic _ => fail "Missing '))'"
      | _ => fail "Unterminated quoted string"
    | some '\\' =>
      match (← get).rest.head? with
      | none => literal '\\'
      | some '\n' =>
        let _ ← take?
        pieces inner whole fuel mode
      | some c =>
        if mode.escapes c then
          let _ ← take?
          againQuoted (.text [c] true)
        else literal '\\'
    | some '\'' =>
      if quoted then literal '\''
      else
        let text ← singleQuoted ((← get).rest.length + 1)
        againQuoted (.quotes [.text text true])
    | some '"' =>
      match mode with
      | .double => return ([], false)
      | .document => literal '"'
      | .arithmetic _ => pieces inner whole fuel mode
      | _ =>
        let (ps, _) ← pieces inner whole fuel .double
        againQuoted (.quotes ps)
    | some '\x7d' =>
      match mode with
      | .brace => return ([], false)
      | .quotedBrace => return ([], false)
      | _ => literal '\x7d'
    | some '(' =>
      match mode with
      | .arithmetic depth =>
        let (rest, q) ← pieces inner whole fuel (.arithmetic (depth + 1))
        return ((Piece.text ['('] true).cons rest, q)
      | .word => giveBack '('
      | .delimiter => giveBack '('
      | _ => literal '('
    | some ')' =>
      match mode with
      | .arithmetic (depth + 1) =>
        let (rest, q) ← pieces inner whole fuel (.arithmetic depth)
        return ((Piece.text [')'] true).cons rest, q)
      | .arithmetic 0 =>
        if ← accept ')' then return ([], false)
        literal ')'
      | .word => giveBack ')'
      | .delimiter => giveBack ')'
      | _ => literal ')'
    | some '\x60' =>
      match mode with
      | .delimiter => againQuoted (.text ['\x60'] true)
      | _ =>
        let line := (← get).line
        let text ← backquoted quoted ((← get).rest.length + 1)
        match whole text line with
        | .ok script => again (.output script quoted)
        | .error e => throw e
    | some '$' =>
      match mode with
      | .delimiter => literal '$'
      | _ => dollar fuel mode again
    | some c =>
      match mode with
      | .word => if isOperatorChar c || c = ' ' || c = '\t' then giveBack c else literal c
      | .delimiter => if isOperatorChar c || c = ' ' || c = '\t' then giveBack c else literal c
      | _ => literal c
where
  /-- Ends pieces before a character that was taken. -/
  giveBack (c : Char) : Parse (Word × Bool) := do
    modify fun s =>
      { s with rest := c :: s.rest, line := if c = '\n' then s.line - 1 else s.line }
    return ([], false)
  /-- What a dollar sign begins. -/
  dollar (fuel : Nat) (mode : Mode) (again : Piece → Parse (Word × Bool)) :
      Parse (Word × Bool) := do
    let quoted := mode.isQuoted
    match ← peek? with
    | some '(' =>
      let _ ← take?
      if ← accept '(' then
        let (inside, _) ← pieces inner whole fuel (.arithmetic 0)
        again (.arithmetic inside quoted)
      else again (.output (← inner) quoted)
    | some '\x7b' =>
      let _ ← take?
      match ← bracedName with
      | none =>
        let _ ← pieces inner whole fuel (if quoted then .quotedBrace else .brace)
        again (.parameter "" .unknown [] quoted)
      | some (name, true) =>
        let plain := (← peek?) = some '\x7d'
        let _ ← pieces inner whole fuel (if quoted then .quotedBrace else .brace)
        again (.parameter name (if plain then .length else .unknown) [] quoted)
      | some (name, false) =>
        let how ← use
        let plainInside := match how with
          | .trim _ _ => true
          | _ => !quoted
        let (word, _) ← pieces inner whole fuel (if plainInside then .brace else .quotedBrace)
        again (.parameter name how word quoted)
    | some c =>
      if isNameStart c then
        let name ← nameRow isNameChar ((← get).rest.length + 1)
        again (.parameter (String.ofList name) .plain [] quoted)
      else if isSpecialParameter c then
        let _ ← take?
        again (.parameter c.toString .plain [] quoted)
      else again (.text ['$'] quoted)
    | none => again (.text ['$'] quoted)

end Testbed.Rehearsal.Machine.Shell
