import Testbed.Rehearsal.Machine.Shell.Words
import Testbed.Text.Pieces
/-!
# Reading scripts

A text is read command by command, up to the end of a line at least: what stands on later lines is
not looked at before the commands on this one have run. `Source.next` reads the next command or
tells the first mistake.

The text of a here-document stands below the line that asks for it. It is taken out of the source at
once, so that the rest of the line goes on with the line below the document.
-/
namespace Testbed.Rehearsal.Machine.Shell

open Parse

/-! ## Tokens -/

def keywords : List String :=
  ["!", "\x7b", "\x7d", "case", "do", "done", "elif", "else", "esac", "fi", "for", "if", "in",
   "then", "until", "while"]

/-- How a token is called in a message. -/
def Token.title : Token → String
  | .word _ _ => "word"
  | .keyword text => s!"\"{text}\""
  | .operator text => s!"\"{text}\""
  | .redirect _ _ _ => "redirection"
  | .newline => "newline"
  | .finish => "end of file"

def unexpected {α : Type} (t : Token) : Parse α := fail s!"{t.title} unexpected"

def expected {α : Type} (t : Token) (wanted : String) : Parse α :=
  fail s!"{t.title} unexpected (expecting {wanted})"

/-- A redirection behind its descriptor. -/
def redirection (fd : Option Nat) : Parse Token := do
  match ← take? with
  | some '>' =>
    let token (way : Way) : Token := .redirect (fd.getD 1) way false
    if ← accept '>' then return token .append
    else if ← accept '|' then return token .force
    else if ← accept '&' then return token .join
    else return token .write
  | _ =>
    let from_ (way : Way) (tabs : Bool) : Token := .redirect (fd.getD 0) way tabs
    if ← accept '<' then return from_ .document (← accept '-')
    else if ← accept '&' then return from_ .join false
    else if ← accept '>' then return from_ .both false
    else return from_ .read false

/-- The readers of the parts of a script that a reader of words needs. -/
structure Readers where
  inner : Parse Script
  whole : List Char → Nat → Except SyntaxError Script

/-- Skips blanks and comments. -/
def skipBlanks : Nat → Parse Unit
  | 0 => return ()
  | fuel + 1 => do
    match ← peek? with
    | some ' ' =>
      let _ ← take?
      skipBlanks fuel
    | some '\t' =>
      let _ ← take?
      skipBlanks fuel
    | some '#' => modify fun s => { s with rest := s.rest.dropWhile (· ≠ '\n') }
    | _ => return ()

/-- The next token of the text. -/
def rawToken (r : Readers) : Parse Token := do
  skipBlanks ((← get).rest.length + 1)
  let double (c : Char) : Parse Token := do
    let _ ← take?
    if ← accept c then return .operator (String.ofList [c, c])
    return .operator c.toString
  match ← peek? with
  | none => return .finish
  | some '\n' => do
    let _ ← take?
    return .newline
  | some '&' => double '&'
  | some '|' => double '|'
  | some ';' => double ';'
  | some '(' => do
    let _ ← take?
    return .operator "("
  | some ')' => do
    let _ ← take?
    return .operator ")"
  | some '<' => redirection none
  | some '>' => redirection none
  | some c =>
    let s ← get
    let numbered := c.isDigit && (s.rest[1]?).any fun d => d = '<' || d = '>'
    if numbered then
      let _ ← take?
      redirection (some (c.toNat - '0'.toNat))
    else
      let (w, quoted) ← pieces r.inner r.whole (2 * s.rest.length + 2) .word
      return .word w quoted

/-- Whether a token can be a keyword or an alias: its text then. -/
def Token.plain? : Token → Option String
  | .word w false => (plainText? w).map String.ofList
  | _ => none

/-- The next token of the text, behind blanks and the aliases that stand there. -/
def aliased (r : Readers) (words : Bool) : Nat → (aliases : Bool) → Parse Token
  | 0, _ => rawToken r
  | fuel + 1, aliases => do
    skipBlanks ((← get).rest.length + 1)
    let s ← get
    let (ended, open_) := s.texts.partition (s.rest.length ≤ ·.behind)
    set { s with texts := open_ }
    let aliases := aliases || ended.any (·.chained)
    let t ← rawToken r
    match t.plain? with
    | none => return t
    | some name =>
      if !aliases || words && keywords.contains name || open_.any (·.name = name) then return t
      match s.aliases.lookup name with
      | none => return t
      | some value =>
        modify fun s =>
          let text : AliasText := ⟨name, s.rest.length, value.toList.getLast?.any (· = ' ')⟩
          { s with rest := value.toList ++ s.rest, texts := text :: s.texts }
        aliased r words fuel aliases

/-- The next token. `lines` are skipped if asked for, and words may be keywords or aliases. -/
def token (r : Readers) (lines words : Bool) : Parse Token := do
  let s ← get
  let fresh : Parse Token := aliased r words (s.aliases.length + 1) words
  let first ← match s.pushed with
    | some t => do
      set { s with pushed := none }
      pure t
    | none => fresh
  let t ← beyond fresh (s.rest.length + 1) first
  match t.plain? with
  | some text => return if words && keywords.contains text then .keyword text else t
  | none => return t
where
  /-- Skips the ends of lines. -/
  beyond (fresh : Parse Token) : Nat → Token → Parse Token
    | 0, t => return t
    | fuel + 1, t =>
      match t with
      | .newline => if lines then do beyond fresh fuel (← fresh) else return t
      | t => return t

/-! ## Here-documents -/

/-- The lines of a document up to its end mark, the lines behind it, and how many lines those of the
document are. -/
def documentLines (mark : List Char) (tabs : Bool) :
    List (List Char) → List (List Char) × List (List Char) × Nat
  | [] => ([], [], 0)
  | line :: rest =>
    let text := if tabs then line.dropWhile (· = '\t') else line
    if text = mark then ([], rest, 1)
    else
      let (inside, after, count) := documentLines mark tabs rest
      (text :: inside, after, count + 1)

/-- Takes the text of a document out of the source. -/
def takeDocument (r : Readers) (mark : List Char) (quoted tabs : Bool) : Parse Word := do
  let s ← get
  let line := s.rest.takeWhile (· ≠ '\n')
  match s.rest.drop line.length with
  | [] => return []
  | _ :: below =>
    let all := Text.cutAt '\n' below
    let ended := below.getLast? = some '\n' || below.isEmpty
    let all := if ended then all.dropLast else all
    let (inside, after, count) := documentLines mark tabs all
    let open_ := !ended && after.isEmpty && !(all.getLast?.any fun l =>
      (if tabs then l.dropWhile (· = '\t') else l) = mark)
    let body := inside.flatMap (· ++ ['\n'])
    let body := if open_ then body.dropLast else body
    let rest := Text.joinBy ['\n'] after ++ (if ended && !after.isEmpty then ['\n'] else [])
    set { s with rest := line ++ '\n' :: rest, skipped := s.skipped + count }
    if quoted then return [.text body true]
    let inner : Source := { rest := body, line := s.line + 1 }
    match (pieces r.inner r.whole (2 * body.length + 2) .document).run inner with
    | .ok ((w, _), _) => return w
    | .error e => throw e

/-- The characters of a word, whatever is quoted. -/
def markText : Nat → Word → List Char
  | 0, _ => []
  | _, [] => []
  | fuel + 1, .text cs _ :: rest => cs ++ markText fuel rest
  | fuel + 1, .quotes inner :: rest => markText fuel inner ++ markText fuel rest
  | fuel + 1, _ :: rest => markText fuel rest

/-- The redirection that a token has begun. -/
def redirectOf (r : Readers) (fd : Nat) (way : Way) (tabs : Bool) : Parse Redirect := do
  match way with
  | .document =>
    skipBlanks ((← get).rest.length + 1)
    let fuel := 2 * (← get).rest.length + 2
    match ← peek? with
    | none => expectWord .finish
    | some c =>
      if isOperatorChar c then expectWord (← rawToken r)
      let (w, quoted) ← pieces r.inner r.whole fuel .delimiter
      return .mk fd .document (← takeDocument r (markText fuel w) quoted tabs)
  | _ =>
    match ← token r false false with
    | .word w _ =>
      return .mk fd way w
    | t => expectWord t
where
  expectWord {α : Type} (t : Token) : Parse α := unexpected t

/-! ## Commands -/

/-- How a list of commands may end. -/
inductive Ending
  /-- At the end of its line. -/
  | line
  /-- At a word that ends a part, behind one command at least. -/
  | part
  /-- At a word that ends a part, at once if need be. -/
  | early

/-- Whether a token ends a part of a script. -/
def Token.isEnd : Token → Bool
  | .operator ")" => true
  | .operator ";;" => true
  | .keyword text => ["do", "done", "elif", "else", "esac", "fi", "then", "\x7d"].contains text
  | .finish => true
  | _ => false

/-- Reads redirections as long as there are any. -/
def redirects (r : Readers) : Nat → Parse (List Redirect)
  | 0 => return []
  | fuel + 1 => do
    match ← token r false true with
    | .redirect fd way tabs =>
      let first ← redirectOf r fd way tabs
      return first :: (← redirects r fuel)
    | t =>
      push t
      return []

/-- The commands that may not be redefined. -/
def specialBuiltins : List String :=
  [".", ":", "break", "continue", "eval", "exec", "exit", "export", "local", "readonly", "return",
   "set", "shift", "times", "trap", "unset"]

/-- What a simple command consists of so far. -/
structure Parts where
  assignments : List (String × Word) := []
  words : List Word := []
  redirects : List Redirect := []

/-- A simple command, or the definition of a function. -/
def simple (r : Readers) (command : Parse Script) (line : Nat) : Nat → Parts → Parse Script
  | 0, p => return done p
  | fuel + 1, p => do
    match ← token r false false with
    | .word w _ =>
      match p.words, assignment? w with
      | [], some a => simple r command line fuel { p with assignments := p.assignments ++ [a] }
      | _, _ => simple r command line fuel { p with words := p.words ++ [w] }
    | .redirect fd way tabs =>
      let one ← redirectOf r fd way tabs
      simple r command line fuel { p with redirects := p.redirects ++ [one] }
    | .operator "(" =>
      match p.assignments, p.words, p.redirects with
      | [], [w], [] =>
        match ← token r false false with
        | .operator ")" => pure ()
        | t => expected t "\")\""
        let name := (plainText? w).getD []
        unless isName name && !specialBuiltins.contains (String.ofList name) do
          fail "Bad function name"
        push (← token r true true)
        return .define (String.ofList name) (← command)
      | _, _, _ =>
        push (.operator "(")
        return done p
    | t =>
      push t
      return done p
where
  done (p : Parts) : Script := .simple line p.assignments p.words p.redirects

/-- The words of a `for` up to the end of the line. -/
def items (r : Readers) : Nat → Parse (List Word)
  | 0 => return []
  | fuel + 1 => do
    match ← token r false false with
    | .word w _ => return w :: (← items r fuel)
    | .newline => return []
    | .operator ";" => return []
    | t => unexpected t

/-- The patterns of a case, up to the closing parenthesis. -/
def casePatterns (r : Readers) : Nat → Token → Parse (List Word)
  | 0, _ => return []
  | fuel + 1, t => do
    let w ← match t with
      | .word w _ => pure w
      | .keyword text => pure [.text text.toList false]
      | t => expected t "\")\""
    match ← token r false false with
    | .operator "|" => return w :: (← casePatterns r fuel (← token r false false))
    | .operator ")" => return [w]
    | t => expected t "\")\""

/-- The cases up to `esac`. -/
def cases (r : Readers) (list : Ending → Parse Script) :
    Nat → Parse (List (List Word × Script))
  | 0 => return []
  | fuel + 1 => do
    match ← token r true true with
    | .keyword "esac" => return []
    | t =>
      let first ← match t with
        | .operator "(" => token r false false
        | t => pure t
      let patterns ← casePatterns r fuel first
      let body ← list .early
      match ← token r true true with
      | .keyword "esac" => return [(patterns, body)]
      | .operator ";;" => return (patterns, body) :: (← cases r list fuel)
      | t => expected t "\";;\""

/-- Takes a keyword that has to come. -/
def expectKeyword (r : Readers) (text : String) (lines : Bool) : Parse Unit := do
  match ← token r lines true with
  | .keyword found => unless found = text do expected (.keyword found) s!"\"{text}\""
  | t => expected t s!"\"{text}\""

/-- What follows the condition of `if` or `elif`. -/
def branches (r : Readers) (list : Ending → Parse Script) : Nat → Parse Script
  | 0 => return .nothing
  | fuel + 1 => do
    let condition ← list .part
    expectKeyword r "then" false
    let yes ← list .part
    match ← token r false true with
    | .keyword "elif" => return .choice condition yes (← branches r list fuel)
    | .keyword "else" => return .choice condition yes (← list .part)
    | t =>
      push t
      return .choice condition yes .nothing

/-- One command. -/
def command (r : Readers) (list : Ending → Parse Script) (fuel : Nat) (self : Parse Script) :
    Parse Script := do
  let redirected (line : Nat) (body : Script) : Parse Script := do
    match ← redirects r fuel with
    | [] => return body
    | rs => return .redirected line body rs
  let closedBy (text : String) (body : Script) : Parse Script := do
    expectKeyword r text false
    redirected (← get).line body
  let t ← token r false true
  let line := (← get).line
  match t with
  | .keyword "if" => closedBy "fi" (← branches r list fuel)
  | .keyword "while" => do
    let condition ← list .part
    expectKeyword r "do" false
    closedBy "done" (.loop false condition (← list .part))
  | .keyword "until" => do
    let condition ← list .part
    expectKeyword r "do" false
    closedBy "done" (.loop true condition (← list .part))
  | .keyword "for" => do
    let name ← match ← token r false false with
      | .word w false =>
        match plainText? w with
        | some cs => if isName cs then pure (String.ofList cs) else fail "Bad for loop variable"
        | none => fail "Bad for loop variable"
      | _ => fail "Bad for loop variable"
    let among ← match ← token r true true with
      | .keyword "in" => some <$> items r fuel
      | .operator ";" => pure none
      | t => do
        push t
        pure none
    expectKeyword r "do" true
    closedBy "done" (.each line name among (← list .part))
  | .keyword "case" => do
    let w ← match ← token r false false with
      | .word w _ => pure w
      | t => expected t "word"
    expectKeyword r "in" true
    let all ← cases r list fuel
    redirected line (.select line w all)
  | .operator "(" => do
    let body ← list .part
    match ← token r false true with
    | .operator ")" => pure ()
    | t => expected t "\")\""
    return .subshell line body (← redirects r fuel)
  | .keyword "\x7b" => do
    let body ← list .part
    closedBy "\x7d" body
  | .word _ _ => do
    push t
    simple r self line fuel {}
  | .redirect _ _ _ => do
    push t
    simple r self line fuel {}
  | t => unexpected t

/-- Commands that are joined by `|`. -/
def stages (r : Readers) (command : Parse Script) : Nat → Parse (List Script)
  | 0 => return []
  | fuel + 1 => do
    let first ← command
    match ← token r false true with
    | .operator "|" => do
      push (← token r true true)
      return first :: (← stages r command fuel)
    | t =>
      push t
      return [first]

def pipeline (r : Readers) (command : Parse Script) (fuel : Nat) : Parse Script := do
  let whole : Parse Script := do
    match ← stages r command fuel with
    | [one] => return one
    | many => return .pipe many
  match ← token r false true with
  | .keyword "!" => return .negation (← whole)
  | t =>
    push t
    whole

/-- Pipelines that are joined by `&&` and `||`. -/
def andOr (r : Readers) (pipeline : Parse Script) : Nat → Option (Bool × Script) → Parse Script
  | 0, before => return (before.map (·.2)).getD .nothing
  | fuel + 1, before => do
    let next ← pipeline
    let all : Script := match before with
      | some (true, first) => .both first next
      | some (false, first) => .either first next
      | none => next
    match ← token r false false with
    | .operator "&&" => do
      push (← token r true true)
      andOr r pipeline fuel (some (true, all))
    | .operator "||" => do
      push (← token r true true)
      andOr r pipeline fuel (some (false, all))
    | t =>
      push t
      return all

/-- A list of commands up to its end, and whether anything was there. -/
def list (r : Readers) (andOr : Parse Script) (ending : Ending) :
    Nat → Option Script → Parse (Option Script)
  | 0, found => return found
  | fuel + 1, found => do
    let atLine := match ending with
      | .line => true
      | _ => false
    let mayEnd := match ending with
      | .line => false
      | .part => found.isSome
      | .early => true
    match ← token r (!atLine) true with
    | .newline => return found
    | .finish =>
      push .finish
      return found
    | t =>
      push t
      if mayEnd && t.isEnd then return found
      let next ← andOr
      let separator ← token r false false
      let next := match separator with
        | .operator "&" => .background next
        | _ => next
      let all : Script := match found with
        | some first => .sequence first next
        | none => next
      match separator with
      | .finish => do
        push .finish
        return some all
      | .newline => do
        push .newline
        list r andOr ending fuel (some all)
      | .operator "&" => list r andOr ending fuel (some all)
      | .operator ";" => list r andOr ending fuel (some all)
      | t =>
        if atLine then unexpected t
        push t
        return some all

mutual

/-- The readers of what stands within words. -/
def readers : Nat → Readers
  | 0 => ⟨fail "too deep", fun _ line => throw { line, message := "Syntax error: too deep" }⟩
  | fuel + 1 =>
    { inner := do
        let body ← scriptList fuel .early
        match ← token (readers fuel) false false with
        | .operator ")" => return body
        | t => expected t "\")\""
      whole := fun text line =>
        let all : Parse Script := do
          let body ← scriptList fuel .early
          match ← token (readers fuel) false false with
          | .finish => return body
          | t => unexpected t
        (all.run { rest := text, line }).map (·.1) }

/-- A list of commands within a script. -/
def scriptList : Nat → Ending → Parse Script
  | 0, _ => fail "too deep"
  | fuel + 1, ending => do
    let r := readers fuel
    let length := (← get).fuel
    let all := andOr r (pipeline r (oneCommand fuel) length) length none
    return (← list r all ending length none).getD .nothing

def oneCommand : Nat → Parse Script
  | 0 => fail "too deep"
  | fuel + 1 => do
    let length := (← get).fuel
    command (readers fuel) (scriptList fuel) length (oneCommand fuel)

end

/-- How deep the parts of a script may be nested. -/
def depth : Nat := 1000

/-- What comes of reading the next command. -/
inductive Source.Next
  | script (s : Script) (rest : Source)
  /-- A line without any command. -/
  | blank (rest : Source)
  | finish

/-- Reads the commands up to the end of a line. -/
def Source.next (s : Source) : Except SyntaxError Source.Next := do
  let length := s.fuel
  let r := readers depth
  let all := andOr r (pipeline r (oneCommand depth) length) length none
  let (found, s) ← (list r all .line length none).run s
  match found, s.pushed with
  | some script, _ => return .script script s
  | none, some .finish => return .finish
  | none, _ => return .blank s

end Testbed.Rehearsal.Machine.Shell
