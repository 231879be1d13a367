import Testbed.Rehearsal.Machine.Glob
import Testbed.Rehearsal.Machine.Shell.Arithmetic
import Testbed.Rehearsal.Machine.Shell.Waiting
/-!
# Expansion

What the words of a command come to when it is run. The pieces of a word become a row of bits:
characters that know whether they were quoted and whether fields may be cut at them, and marks of
places where a field begins or is there in any case. The row is cut into fields, and the fields that
hold wildcards become the names that fit.
-/
namespace Testbed.Rehearsal.Machine.Shell

open Sh

/-- A part of what a word comes to. -/
inductive Bit
  | char (c : Char) (quoted splits : Bool)
  /-- The end of a field, whatever was quoted. -/
  | gap
  /-- Something was quoted here: there is a field even if it is empty. -/
  | mark
  deriving DecidableEq, Repr

/-- Where a word stands, and thus what becomes of it. -/
structure Place where
  /-- Whether literal text is cut into fields. -/
  literal : Bool := false
  quoted : Bool := false
  /-- Whether arguments stay apart. -/
  fields : Bool := true
  /-- Whether the word is the value of a variable: home directories may stand behind colons. -/
  value : Bool := false
  deriving DecidableEq, Repr

def bitsOf (quoted splits : Bool) (cs : List Char) : List Bit :=
  cs.map fun c => .char c quoted splits

/-- The characters of a row. -/
def textOf (bits : List Bit) : List Char :=
  bits.filterMap fun
    | .char c _ _ => some c
    | .gap => some ' '
    | .mark => none

/-- The characters of a row with what was quoted among them. -/
def markedOf (bits : List Bit) : List Glob.Marked :=
  bits.filterMap fun
    | .char c q _ => some (c, q)
    | .gap => some (' ', true)
    | .mark => none

/-- The text without the line feeds at its end. -/
def dropLastLines (cs : List Char) : List Char := (cs.reverse.dropWhile (· = '\n')).reverse

/-- Reads a stream to its end. -/
def readAll (fd : Nat) : Nat → List Char → Task (List Char)
  | 0, found => return found
  | fuel + 1, found => do
    match ← ask (.read fd 65536) with
    | .ok [] => return found
    | .ok text => readAll fd fuel (found ++ text)
    | .error _ => return found

/-- The characters that fields are cut at. -/
def separators (s : State) : List Char :=
  match s.vars.lookup "IFS" with
  | some { value := some v, .. } => v.toList
  | _ => [' ', '\t', '\n']

/-- The bits of the arguments. -/
def argumentBits (name : String) (place : Place) : Sh (List Bit) := do
  let s ← get
  let one (a : String) : List Bit := bitsOf place.quoted (!place.quoted) a.toList
  if name = "*" && place.quoted then
    let between := match s.vars.lookup "IFS" with
      | some { value := some v, .. } => v.toList.take 1
      | _ => [' ']
    return bitsOf true false (Text.joinBy between (s.arguments.map String.toList))
  else if !place.fields then
    return bitsOf place.quoted false (Text.joinBy [' '] (s.arguments.map String.toList))
  else
    let parts := s.arguments.map fun a => if place.quoted then .mark :: one a else one a
    return ((parts.map (.gap :: ·)).flatten).drop 1

/-- The part of a text that is left when a pattern is taken off. -/
def trimmed (front longest : Bool) (pattern : Text.Pattern) (text : List Char) : List Char :=
  if front then
    let found := pattern.endsFrom text 0
    match if longest then found.getLast? else found.head? with
    | some n => text.drop n
    | none => text
  else
    let starts := (List.range (text.length + 1)).filter fun n => pattern.fits (text.drop n)
    match if longest then starts.head? else starts.getLast? with
    | some n => text.take n
    | none => text

/-- Runs a script in a process of its own and hands over what it writes. `inChild` never comes
back. -/
def outputOf (inChild : Sh Empty) : Sh (List Char) := do
  let (source, sink) ← sys .pipe
  match ← sys .fork with
  | none =>
    let _ ← sys (.close source)
    let _ ← sys (.copyTo sink 1)
    unless sink = 1 do
      let _ ← sys (.close sink)
    nomatch ← inChild
  | some pid =>
    let _ ← sys (.close sink)
    let text ← task (readAll source 1000000 [])
    let _ ← sys (.close source)
    let status ← await [pid]
    modify fun s => { s with substituted := status }
    return text

/-- Where the users of the machine are at home. -/
def homes : List (String × String) :=
  [("root", "/root"), ("daemon", "/usr/sbin"), ("bin", "/bin"), ("sys", "/dev"),
   ("nobody", "/nonexistent")]

/-- Where `~` leads, with the name of a user behind it or without. -/
def homeOf? (s : State) (user : List Char) : Option (List Char) :=
  (if user.isEmpty then s.value? "HOME" else homes.lookup (String.ofList user)).map String.toList

/-- Puts home directories in place of `~` in a text, at its beginning if `start`, and behind colons
if `colons`. `last` tells whether nothing follows the text. -/
def tildesIn (s : State) (colons last : Bool) : Nat → (start : Bool) → List Char → Word
  | 0, _, cs => [.text cs false]
  | _, _, [] => []
  | fuel + 1, start, c :: rest =>
    let plain : Word :=
      Piece.cons (.text [c] false) (tildesIn s colons last fuel (colons && c = ':') rest)
    if start && c = '~' then
      let user := rest.takeWhile fun c => c ≠ '/' && !(colons && c = ':')
      let behind := rest.drop user.length
      match homeOf? s user with
      | some home =>
        if behind.isEmpty && !last then plain
        else Piece.cons (.text home true) (tildesIn s colons last fuel false behind)
      | none => plain
    else plain

/-- Puts home directories in place of `~` in a word. -/
def tildes (s : State) (colons : Bool) (w : Word) : Word := go true w
where
  go (start : Bool) : Word → Word
    | [] => []
    | .text cs false :: more =>
      tildesIn s colons more.isEmpty (cs.length + 1) start cs ++ go false more
    | piece :: more => piece :: go false more

/-- What expansion needs of the shell: how a script is run in a process of its own. -/
structure Runner where
  inChild : Script → Sh Empty

/-- The bits of pieces. -/
def expandPieces (r : Runner) : Nat → Place → Word → Sh (List Bit)
  | 0, _, _ => return []
  | _, _, [] => return []
  | fuel + 1, place, piece :: rest => do
    let here : List Bit ← match piece with
      | .text cs quoted =>
        let quoted := quoted || place.quoted
        pure (bitsOf quoted (place.literal && !quoted) cs)
      | .quotes inner => do
        let bits ← expandPieces r fuel { place with quoted := true } inner
        let onlyArguments := inner.any fun
          | .parameter "@" .plain _ _ => true
          | _ => false
        pure (if bits.isEmpty && onlyArguments && place.fields then [] else .mark :: bits)
      | .parameter name use word quoted =>
        parameterBits fuel { place with quoted := quoted || place.quoted } name use word
      | .output script quoted => do
        let quoted := quoted || place.quoted
        let text ← outputOf (r.inChild script)
        pure (bitsOf quoted (!quoted)
          (dropLastLines (text.filter (· ≠ '\x00'))))
      | .arithmetic inner quoted => do
        let quoted := quoted || place.quoted
        let expression := textOf (← expandPieces r fuel { quoted := true, fields := false } inner)
        let n ← compute expression
        pure (bitsOf quoted (!quoted) (Text.signedDecimal n).toList)
    return here ++ (← expandPieces r fuel place rest)
where
  /-- The value of an arithmetic expression. -/
  compute (expression : List Char) : Sh Int := do
    match Arithmetic.evaluate (← get).parameter? expression with
    | .ok (n, changes) =>
      for (name, value) in changes do setVariable name (Text.signedDecimal value)
      return n
    | .error e => fail (e.message (String.ofList expression))
  /-- The bits of a parameter. -/
  parameterBits (fuel : Nat) (place : Place) (name : String) (use : Use) (word : Word) :
      Sh (List Bit) := do
    let s ← get
    let many := name = "@" || name = "*"
    let value := if many then some (Text.join " " s.arguments) else s.parameter? name
    let word := if place.quoted then word else tildes s place.value word
    let unset : Sh Unit := do
      if value.isNone && s.options.has 'u' then fail s!"{name}: parameter not set"
    let bits : Sh (List Bit) := do
      if many then argumentBits name place
      else return bitsOf place.quoted (!place.quoted) (value.getD "").toList
    let other : Sh (List Bit) := expandPieces r fuel { place with literal := !place.quoted } word
    match use with
    | .plain => do
      unset
      bits
    | .length => do
      unset
      return bitsOf place.quoted (!place.quoted)
        (Text.decimal (value.getD "").length).toList
    | .substitute how blank =>
      let there := value.any fun v => !(blank && v.isEmpty)
      match how with
      | '+' => if there then other else return []
      | '-' => if there then bits else other
      | '=' =>
        if there then bits
        else
          let whole : Place := { quoted := place.quoted, fields := false }
          let text := textOf (← expandPieces r fuel whole word)
          if isName name.toList then setVariable name (String.ofList text)
          else fail s!"{name}: bad variable name"
          return bitsOf place.quoted (!place.quoted) text
      | _ =>
        if there then bits
        else
          let text := textOf (← expandPieces r fuel { fields := false } word)
          let reason := if word.isEmpty then
              "parameter not set" ++ if blank then " or null" else ""
            else String.ofList text
          fail s!"{name}: {reason}"
    | .trim front longest => do
      unset
      let marked := markedOf (← expandPieces r fuel { fields := false } word)
      let cut (text : String) : List Char :=
        trimmed front longest (Glob.pattern marked) text.toList
      return bitsOf place.quoted (!place.quoted) (cut (value.getD ""))
    | .unknown => fail "Bad substitution"

/-- How deep words may be nested, and how many pieces they may have. -/
def wordFuel : Nat := 100000

/-! ## Fields -/

/-- A field: its characters, and which of them were quoted. -/
abbrev Field := List Glob.Marked

/-- Where the cutting of fields has come to. -/
structure Cutting where
  done : List Field := []
  field : Field := []
  /-- Whether the field is there even if it has no characters. -/
  begun : Bool := false
  /-- Whether blanks have just ended a field, so that a separator does not end another one. -/
  blank : Bool := false

namespace Cutting

def finish (c : Cutting) : Cutting := { done := c.field.reverse :: c.done }

def step (separators : List Char) (c : Cutting) : Bit → Cutting
  | .mark => { c with begun := true, blank := false }
  | .gap => if c.begun then c.finish else { c with blank := false }
  | .char ch quoted splits =>
    if splits && separators.contains ch then
      if ch = ' ' || ch = '\t' || ch = '\n' then
        if c.begun then { c.finish with blank := true } else c
      else if c.blank then { c with blank := false }
      else c.finish
    else { c with field := (ch, quoted) :: c.field, begun := true, blank := false }

end Cutting

/-- The fields of a row. -/
def fieldsOf (separators : List Char) (bits : List Bit) : List Field :=
  let c := bits.foldl (Cutting.step separators) {}
  let c := if c.begun then c.finish else c
  c.done.reverse

/-! ## Names -/

/-- The names in the directory that a path leads to, in their order. -/
def namesIn (path : String) : Sh (List String) := do
  match ← sys (.list path) with
  | .ok names => return (names ++ [".", ".."]).mergeSort fun a b => a ≤ b
  | .error _ => return []

/-- The paths that fit: `found` are those of the components so far. -/
def fittingPaths : List (List Glob.Marked) → List String → Sh (List String)
  | [], found => return found
  | component :: rest, found => do
    let plain := String.ofList (component.map (·.1))
    if Glob.hasWildcards component then
      let mut next := []
      for path in found do
        let names ← namesIn (if path.isEmpty then "." else path)
        next := next ++ (names.filter (Glob.fitsName component)).map (path ++ ·)
      if rest.isEmpty then return next
      let mut directories := []
      for path in next do
        match ← sys (.status path) with
        | .ok { kind := .directory, .. } => directories := directories ++ [path ++ "/"]
        | _ => pure ()
      fittingPaths rest directories
    else if rest.isEmpty then
      let mut next := []
      for path in found do
        if plain.isEmpty then next := next ++ [path]
        else if (← sys (.status (path ++ plain))).isOk then next := next ++ [path ++ plain]
      return next
    else fittingPaths rest (found.map (· ++ plain ++ "/"))

/-- The components of a path with wildcards. -/
def components (field : Field) : List (List Glob.Marked) :=
  match field with
  | [] => [[]]
  | (c, q) :: rest =>
    if c = '/' then [] :: components rest
    else match components rest with
      | [] => [[(c, q)]]
      | first :: more => ((c, q) :: first) :: more

/-- The names that a field stands for, or the field itself. -/
def fieldNames (field : Field) : Sh (List String) := do
  let plain := String.ofList (field.map (·.1))
  if (← get).options.has 'f' || !Glob.hasWildcards field then return [plain]
  match ← fittingPaths (components field) [""] with
  | [] => return [plain]
  | names => return names.mergeSort fun a b => a ≤ b

/-! ## Words -/

/-- The fields of words, with names in place of wildcards. -/
def expandWords (r : Runner) : List Word → Sh (List String)
  | [] => return []
  | w :: rest => do
    let bits ← expandPieces r wordFuel {} (tildes (← get) false w)
    let fields := fieldsOf (separators (← get)) bits
    let mut names := []
    for field in fields do names := names ++ (← fieldNames field)
    return names ++ (← expandWords r rest)

/-- A word that stays one text. -/
def expandWhole (r : Runner) (w : Word) : Sh String := do
  let w := tildes (← get) false w
  return String.ofList (textOf (← expandPieces r wordFuel { fields := false } w))

/-- A word that becomes the value of a variable. -/
def expandValue (r : Runner) (w : Word) : Sh String := do
  let w := tildes (← get) true w
  return String.ofList (textOf (← expandPieces r wordFuel { fields := false, value := true } w))

/-- The pattern that a word writes. -/
def expandPattern (r : Runner) (w : Word) : Sh Text.Pattern := do
  let w := tildes (← get) false w
  return Glob.pattern (markedOf (← expandPieces r wordFuel { fields := false } w))

end Testbed.Rehearsal.Machine.Shell
