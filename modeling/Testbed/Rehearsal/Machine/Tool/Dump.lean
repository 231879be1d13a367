import Testbed.Rehearsal.Machine.Mode
import Testbed.Rehearsal.Machine.Tool.Reading
/-!
# Bytes in other forms

Tools that show bytes as numbers or letters, and the way back: `od` and `base64`.
-/
namespace Testbed.Rehearsal.Machine.Tool

open Act

/-! ## Rows of numbers -/

/-- How bytes are shown. -/
inductive Form
  | octal
  | decimal
  | signed
  | hexadecimal
  /-- Letters, with a backslash for some of those that cannot be seen. -/
  | letter
  /-- Letters, with the names of those that cannot be seen. -/
  | named
  deriving DecidableEq, Repr

/-- A form, how many bytes make one number, and whether the text is shown at the end of each row. -/
structure DumpKind where
  form : Form
  size : Nat
  text : Bool := false

/-- How wide a number can be. -/
def DumpKind.width (k : DumpKind) : Nat :=
  let most := Nat.pow 256 k.size - 1
  match k.form with
  | .octal => (Nat.toDigits 8 most).length
  | .decimal => (Nat.toDigits 10 most).length
  | .signed => (Nat.toDigits 10 ((most + 1) / 2)).length + 1
  | .hexadecimal => 2 * k.size
  | .letter => 3
  | .named => 3

/-- The number that bytes write, the lowest one first. -/
def littleEnd (bytes : List Char) : Nat := bytes.foldr (fun c n => n * 256 + c.toNat) 0

/-- The names of the bytes that cannot be seen. -/
def byteNames : List String :=
  ["nul", "soh", "stx", "etx", "eot", "enq", "ack", "bel", "bs", "ht", "nl", "vt", "ff", "cr", "so",
   "si", "dle", "dc1", "dc2", "dc3", "dc4", "nak", "syn", "etb", "can", "em", "sub", "esc", "fs",
   "gs", "rs", "us", "sp"]

/-- A byte as a letter. -/
def letterForm (c : Char) : String :=
  match c with
  | '\x00' => "\\0"
  | '\x07' => "\\a"
  | '\x08' => "\\b"
  | '\x0c' => "\\f"
  | '\n' => "\\n"
  | '\r' => "\\r"
  | '\t' => "\\t"
  | '\x0b' => "\\v"
  | c => if ' ' ≤ c && c ≤ '~' then c.toString else Mode.octal 3 c.toNat

/-- The bytes of one number in their form. -/
def DumpKind.numberText (k : DumpKind) (bytes : List Char) : String :=
  let n := littleEnd bytes
  match k.form with
  | .octal => Mode.octal k.width n
  | .decimal => Text.decimal n
  | .signed =>
    let values := Nat.pow 256 k.size
    if values / 2 ≤ n then "-" ++ Text.decimal (values - n) else Text.decimal n
  | .hexadecimal =>
    let digits := Nat.toDigits 16 n
    String.ofList (List.replicate (k.width - digits.length) '0' ++ digits)
  | .letter => letterForm (bytes.head?.getD ' ')
  | .named =>
    let low := n % 128
    if low = 127 then "del" else byteNames[low]?.getD (Char.ofNat low).toString

/-- A row of numbers. All kinds are as wide as the widest one: what is missing is spread between the
numbers. -/
def dumpRow (kind : DumpKind) (rowSize widest : Nat) (row : List Char) : String :=
  let fields := rowSize / kind.size
  let missing := widest - fields * (kind.width + 1)
  let numbers := (Text.chunks kind.size row).zipIdx.map fun (bytes, i) =>
    let here := missing * (fields - i) / fields
    let next := missing * (fields - i - 1) / fields
    " " ++ toRight (kind.width + (here - next)) (kind.numberText bytes)
  let text := Text.join "" numbers
  if kind.text then
    let blanks := String.ofList (List.replicate (widest - text.length) ' ')
    let seen := row.map fun c => if ' ' ≤ c && c ≤ '~' then c else '.'
    text ++ blanks ++ "  >" ++ String.ofList seen ++ "<"
  else text

/-- The kinds that a text asks for. -/
def dumpKinds (whole : String) : Nat → List Char → Act (List DumpKind)
  | 0, _ => return []
  | _, [] => return []
  | fuel + 1, c :: rest => do
    let form ← match c with
      | 'o' => pure Form.octal
      | 'u' => pure .decimal
      | 'd' => pure .signed
      | 'x' => pure .hexadecimal
      | 'c' => pure .letter
      | 'a' => pure .named
      | _ => fail s!"invalid character '{c}' in type string {inQuotes whole}"
    let (size, rest) := match form, rest with
      | .letter, rest => (1, rest)
      | .named, rest => (1, rest)
      | _, 'C' :: rest => (1, rest)
      | _, 'S' :: rest => (2, rest)
      | _, 'I' :: rest => (4, rest)
      | _, 'L' :: rest => (8, rest)
      | _, rest =>
        let digits := rest.takeWhile Char.isDigit
        ((Text.digits? digits).getD 4, rest.drop digits.length)
    unless [1, 2, 4, 8].contains size do
      let words := "this system doesn't provide a " ++ Text.decimal size
      fail s!"invalid type string {inQuotes whole};\n{words}-byte integral type"
    let (text, rest) := match rest with
      | 'z' :: rest => (true, rest)
      | rest => (false, rest)
    return ⟨form, size, text⟩ :: (← dumpKinds whole fuel rest)

def odGrammar : Grammar where
  kinds := [⟨'A', "address-radix", .argument⟩, ⟨'t', "format", .argument⟩,
    ⟨'N', "read-bytes", .argument⟩, ⟨'j', "skip-bytes", .argument⟩,
    ⟨'v', "output-duplicates", .nothing⟩, ⟨'w', "width", .maybe⟩, ⟨'a', "", .nothing⟩,
    ⟨'b', "", .nothing⟩, ⟨'c', "", .nothing⟩, ⟨'d', "", .nothing⟩, ⟨'i', "", .nothing⟩,
    ⟨'l', "", .nothing⟩, ⟨'o', "", .nothing⟩, ⟨'s', "", .nothing⟩, ⟨'x', "", .nothing⟩]

/-- The kinds that the options ask for. -/
def kindsOf (chosen : Chosen) : Act (List DumpKind) := do
  let mut kinds := []
  for (letter, text) in chosen do
    let more ← match letter with
      | 't' => dumpKinds text (text.length + 1) text.toList
      | 'a' => pure [⟨.named, 1, false⟩]
      | 'b' => pure [⟨.octal, 1, false⟩]
      | 'c' => pure [⟨.letter, 1, false⟩]
      | 'd' => pure [⟨.decimal, 2, false⟩]
      | 'i' => pure [⟨.signed, 4, false⟩]
      | 'l' => pure [⟨.signed, 8, false⟩]
      | 'o' => pure [⟨.octal, 2, false⟩]
      | 's' => pure [⟨.signed, 2, false⟩]
      | 'x' => pure [⟨.hexadecimal, 2, false⟩]
      | _ => pure []
    kinds := kinds ++ more
  return if kinds.isEmpty then [⟨.octal, 2, false⟩] else kinds

def od : Tool := fun arguments => do
  let (chosen, files) ← odGrammar.all arguments
  let radix := (chosen.text? 'A').getD "o"
  unless ["o", "d", "x", "n"].contains radix do
    fail s!"invalid output address radix '{radix}'; it must be one character from [doxn]"
  let number (letter : Char) : Act (Option Nat) :=
    match chosen.text? letter with
    | none => return none
    | some text =>
      match sized? text.toList with
      | some n => return some n
      | none => fail s!"invalid -{letter} argument {inQuotes text}"
  let most ← number 'N'
  let skip := (← number 'j').getD 0
  let kinds ← kindsOf chosen
  let size := kinds.foldl (fun n k => max n k.size) 1
  let rowSize := match chosen.text? 'w' with
    | some "" => 32
    | some text => (Text.digits? text.toList).getD 16
    | none => 16
  let rowSize := if rowSize % size = 0 then rowSize else size
  let widest := kinds.foldl (fun n k => max n (rowSize / k.size * (k.width + 1))) 0
  let mut text := []
  for path in inputsOf files do
    match ← contentOf path with
    | .ok more => text := text ++ more
    | .error e => trouble s!"{shownName path}: {e.words.1}"
  if (← get) ≠ 0 && text.isEmpty then quit 1
  if text.length < skip then fail "cannot skip past end of combined input"
  let behind := text.drop skip
  let shown := match most with
    | some n => behind.take n
    | none => behind
  let address (n : Nat) : String :=
    let wide (width : Nat) (digits : List Char) : String :=
      String.ofList (List.replicate (width - digits.length) '0' ++ digits)
    match radix with
    | "o" => wide 7 (Nat.toDigits 8 n)
    | "d" => wide 7 (Nat.toDigits 10 n)
    | "x" => wide 6 (Nat.toDigits 16 n)
    | _ => ""
  let blanks := String.ofList (List.replicate (address 0).length ' ')
  let mut last : Option (List Char) := none
  let mut starred := false
  let mut place := skip
  let mut out : Array String := #[]
  for row in Text.chunks rowSize shown do
    if !chosen.has 'v' && last = some row && row.length = rowSize then
      unless starred do
        out := out.push "*\n"
      starred := true
    else
      starred := false
      let mut front := address place
      for kind in kinds do
        out := out.push s!"{front}{dumpRow kind rowSize widest row}\n"
        front := blanks
    last := some row
    place := place + row.length
  say (Text.join "" out.toList)
  unless radix = "n" do say s!"{address place}\n"

/-! ## Sixty-four letters -/

def base64Letters : List Char :=
  "ABCDEFGHIJKLMNOPQRSTUVWXYZabcdefghijklmnopqrstuvwxyz0123456789+/".toList

/-- The letters for some bytes: four for every three of them. -/
def encode64 : Nat → List Char → List Char
  | 0, _ => []
  | _, [] => []
  | fuel + 1, text =>
    let bytes := text.take 3
    let n := bytes.foldl (fun n c => n * 256 + c.toNat) 0 * Nat.pow 256 (3 - bytes.length)
    let letter (shift : Nat) : Char := (base64Letters[n / Nat.pow 64 shift % 64]?).getD 'A'
    let letters := [letter 3, letter 2, letter 1, letter 0].take (bytes.length + 1)
    letters ++ List.replicate (3 - bytes.length) '=' ++ encode64 fuel (text.drop 3)

/-- The bytes that letters stand for, and whether all of them could be read. -/
def decode64 : Nat → List Char → List Char × Bool
  | 0, _ => ([], true)
  | _, [] => ([], true)
  | fuel + 1, text =>
    let quad := text.take 4
    let letters := quad.takeWhile fun c => c ≠ '=' && base64Letters.contains c
    let values := letters.map fun c => (base64Letters.findIdx (· = c))
    let n := values.foldl (fun n v => n * 64 + v) 0 * Nat.pow 64 (4 - letters.length)
    let bytes := [n / 65536 % 256, n / 256 % 256, n % 256].map Char.ofNat
    let found := bytes.take (letters.length - 1)
    let padded := letters ++ List.replicate (4 - letters.length) '=' = quad && 2 ≤ letters.length
    if quad.length = 4 && padded then
      let (more, good) := decode64 fuel (text.drop 4)
      (found ++ more, good)
    else (found, false)

def base64 : Tool := fun arguments => do
  let g : Grammar := { kinds := [⟨'d', "decode", .nothing⟩, ⟨'i', "ignore-garbage", .nothing⟩,
    ⟨'w', "wrap", .argument⟩] }
  let (chosen, files) ← g.all arguments
  let wrap ← match chosen.text? 'w' with
    | none => pure 76
    | some text =>
      match Text.digits? text.toList with
      | some n => pure n
      | none => fail s!"invalid wrap size: {inQuotes text}"
  if let some extra := files[1]? then misuse s!"extra operand {inQuotes extra}"
  let path := files.head?.getD "-"
  match ← contentOf path with
  | .error e =>
    if e = .isADirectory then fail s!"read error: {e.words.1}"
    else fail s!"{shownName path}: {e.words.1}"
  | .ok text =>
    if chosen.has 'd' then
      let letters := text.filter (· ≠ '\n')
      let letters := if chosen.has 'i' then
          letters.filter fun c => c = '=' || base64Letters.contains c
        else letters
      let (bytes, good) := decode64 (letters.length + 1) letters
      put 1 bytes
      unless good do fail "invalid input"
    else
      let letters := encode64 (text.length + 1) text
      if wrap = 0 then put 1 letters
      else put 1 ((Text.chunks wrap letters).flatMap (· ++ ['\n']))

/-- The tools of this module by their names. -/
def dumpTools : List (String × Tool) := [("base64", base64), ("od", od)]

end Testbed.Rehearsal.Machine.Tool
