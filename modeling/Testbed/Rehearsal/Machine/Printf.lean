import Testbed.Text.CharSet
import Testbed.Text.Numeral
/-!
# Formats

Texts that are made of a format and arguments: the format is used again until no argument is left.
Numbers are read and written exactly; where a machine keeps a fraction as a double, `nearestDouble`
says which value that is.
-/
namespace Testbed.Rehearsal.Machine.Printf

open Text (decimalDigits hexDigitValue)

/-! ## Escapes -/

def isOctal (c : Char) : Bool := '0' ≤ c && c ≤ '7'

def octalValue (digits : List Char) : Nat :=
  digits.foldl (fun n c => n * 8 + (c.toNat - '0'.toNat)) 0

def isHex (c : Char) : Bool := c.isDigit || ('a' ≤ c.toLower && c.toLower ≤ 'f')

/-- The character of a number, of which the last eight bits count. -/
def byteOf (n : Nat) : Char := Char.ofNat (n % 256)

/-- The character that a letter behind a backslash stands for. -/
def letterEscape? : Char → Option Char
  | 'a' => some '\x07'
  | 'b' => some '\x08'
  | 'f' => some '\x0c'
  | 'n' => some '\n'
  | 'r' => some '\r'
  | 't' => some '\t'
  | 'v' => some '\x0b'
  | '\\' => some '\\'
  | _ => none

/-- Which escapes are known. -/
structure Dialect where
  /-- Numbers to base sixteen and numbers of characters. -/
  hex : Bool := false
  /-- A double quote needs a backslash. -/
  quote : Bool := false
  deriving DecidableEq, Repr

/-- What stands behind a backslash in a format, and what follows. -/
def escape? (d : Dialect) (cs : List Char) : Option (List Char × List Char) :=
  match cs with
  | [] => none
  | c :: rest =>
    match letterEscape? c with
    | some e => some ([e], rest)
    | none =>
      if isOctal c then
        let digits := (cs.takeWhile isOctal).take 3
        some ([byteOf (octalValue digits)], cs.drop digits.length)
      else if d.quote && c = '"' then some (['"'], rest)
      else if c = 'e' then some (['\x1b'], rest)
      else if d.hex && (c = 'u' || c = 'U') then
        -- a character that is not one byte is written by its number
        let digits := (rest.takeWhile isHex).take (if c = 'u' then 4 else 8)
        some ('\\' :: c :: digits.map Char.toUpper, rest.drop digits.length)
      else if d.hex && c = 'x' then
        let digits := (rest.takeWhile isHex).take 2
        if digits.isEmpty then none
        else some ([byteOf (Text.hexValue digits)], rest.drop digits.length)
      else none

/-- A text with the escapes of `%b` replaced: octal numbers may begin with a zero more. The flag
tells whether `\c` ended it. -/
def unescape (d : Dialect) : Nat → List Char → List Char × Bool
  | 0, _ => ([], false)
  | _, [] => ([], false)
  | fuel + 1, c :: rest =>
    let behind (text rest : List Char) : List Char × Bool :=
      let (more, stopped) := unescape d fuel rest
      (text ++ more, stopped)
    if c ≠ '\\' then behind [c] rest
    else match rest with
      | 'c' :: _ => ([], true)
      | '0' :: inner =>
        let digits := (inner.takeWhile isOctal).take 3
        behind [byteOf (octalValue digits)] (inner.drop digits.length)
      | rest =>
        match escape? d rest with
        | some (text, rest) => behind text rest
        | none => behind ['\\'] rest

/-! ## Numbers -/

/-- A number that is not negative, as a fraction. -/
structure Fraction where
  numerator : Nat
  denominator : Nat := 1
  deriving DecidableEq, Repr

/-- A number as text gives it. -/
inductive Number
  | finite (negative : Bool) (value : Fraction)
  | infinite (negative : Bool)
  | none
  deriving Repr

/-- The nearest whole number; of two that are as near, the even one. -/
def roundDiv (a b : Nat) : Nat :=
  let q := a / b
  let r := a % b
  if b < 2 * r || (2 * r = b && q % 2 = 1) then q + 1 else q

/-- The value that a double has in place of a number `digits · 10 ^ exponent`. -/
def nearestDouble (digits : Nat) (exponent : Int) : Fraction :=
  let f : Float := if exponent < 0 then OfScientific.ofScientific digits true exponent.natAbs
    else OfScientific.ofScientific digits false exponent.natAbs
  let bits := f.toBits.toNat
  let biased : Nat := bits / Nat.pow 2 52 % Nat.pow 2 11
  let low : Nat := bits % Nat.pow 2 52
  let (m, e) : Nat × Int :=
    if biased = 0 then (low, -1074) else (low + Nat.pow 2 52, (biased : Int) - 1075)
  if e < 0 then ⟨m, Nat.pow 2 e.natAbs⟩ else ⟨m * Nat.pow 2 e.natAbs, 1⟩

/-- Reads a number with places, and what follows it. -/
def fraction? (double : Bool) (cs : List Char) : Option (Number × List Char) :=
  let (negative, body) := match cs with
    | '-' :: rest => (true, rest)
    | '+' :: rest => (false, rest)
    | rest => (false, rest)
  let lower := body.map Char.toLower
  if Text.startsWith "infinity".toList lower then some (.infinite negative, body.drop 8)
  else if Text.startsWith "inf".toList lower then some (.infinite negative, body.drop 3)
  else if Text.startsWith "nan".toList lower then some (.none, body.drop 3)
  else
    let whole := body.takeWhile Char.isDigit
    let rest := body.drop whole.length
    let (places, rest) := match rest with
      | '.' :: after => (after.takeWhile Char.isDigit, after.dropWhile Char.isDigit)
      | rest => ([], rest)
    if whole.isEmpty && places.isEmpty then none
    else
      let digits := (Text.digits? (whole ++ places)).getD 0
      let (exponent, rest) : Int × List Char := match rest with
        | e :: after =>
          if e = 'e' || e = 'E' then
            let (sign, more) : Int × List Char := match after with
              | '-' :: more => (-1, more)
              | '+' :: more => (1, more)
              | more => (1, more)
            let row := more.takeWhile Char.isDigit
            if row.isEmpty then (0, rest)
            else (sign * ((Text.digits? row).getD 0 : Nat), more.drop row.length)
          else (0, rest)
        | [] => (0, [])
      let exponent := max (-5000) (min 5000 exponent) - places.length
      let value : Fraction :=
        if double then nearestDouble digits exponent
        else if exponent < 0 then ⟨digits, Nat.pow 10 exponent.natAbs⟩
        else ⟨digits * Nat.pow 10 exponent.natAbs, 1⟩
      some (.finite negative value, rest)

/-- A number with so many places behind the point. -/
def fixed (value : Fraction) (places : Nat) (point : Bool) : List Char :=
  let n := roundDiv (value.numerator * Nat.pow 10 places) value.denominator
  let digits := decimalDigits n
  let digits := List.replicate (places + 1 - digits.length) '0' ++ digits
  let whole := digits.take (digits.length - places)
  let behind := digits.drop (digits.length - places)
  whole ++ (if places = 0 && !point then [] else ['.']) ++ behind

/-- The exponent of the first digit of a number that is not zero. -/
def exponentOf (value : Fraction) : Int :=
  if value.numerator = 0 then 0
  else
    let guess : Int :=
      (decimalDigits value.numerator).length - (decimalDigits value.denominator).length
    let scaled (e : Int) : Bool :=
      if e < 0 then value.denominator ≤ value.numerator * Nat.pow 10 e.natAbs
      else value.denominator * Nat.pow 10 e.natAbs ≤ value.numerator
    if scaled guess then guess else guess - 1

/-- The digits of a number, one before the point, and its exponent after rounding. -/
def mantissa (value : Fraction) (places : Nat) : Nat × Int :=
  let e := exponentOf value
  let shift : Int := places - e
  let n := if shift < 0 then roundDiv value.numerator (value.denominator * Nat.pow 10 shift.natAbs)
    else roundDiv (value.numerator * Nat.pow 10 shift.natAbs) value.denominator
  if Nat.pow 10 (places + 1) ≤ n then (n / 10, e + 1) else (n, e)

/-- A number with an exponent. -/
def scientific (value : Fraction) (places : Nat) (point : Bool) (letter : Char) : List Char :=
  let (n, e) := mantissa value places
  let digits := decimalDigits n
  let digits := List.replicate (places + 1 - digits.length) '0' ++ digits
  let row := decimalDigits e.natAbs
  let row := if row.length < 2 then '0' :: row else row
  digits.take 1 ++ (if places = 0 && !point then [] else ['.']) ++ digits.drop 1 ++
    [letter, if e < 0 then '-' else '+'] ++ row

/-- Digits without the zeros at the end of their places. -/
def stripZeros (cs : List Char) : List Char :=
  if cs.contains '.' then
    let rest := cs.reverse.dropWhile (· = '0')
    (if rest.head? = some '.' then rest.drop 1 else rest).reverse
  else cs

/-- A number in the shorter of both forms, with so many digits. -/
def general (value : Fraction) (digits : Nat) (all : Bool) (letter : Char) : List Char :=
  let digits := max digits 1
  let (_, e) := mantissa value (digits - 1)
  if e < -4 || (digits : Int) ≤ e then
    let text := scientific value (digits - 1) all letter
    if all then text
    else
      let front := text.takeWhile (· ≠ letter)
      stripZeros front ++ text.drop front.length
  else
    let text := fixed value (digits - 1 - e).toNat all
    if all then text else stripZeros text

/-! ## Conversions -/

/-- What stands between `%` and the letter of a conversion. -/
structure Spec where
  left : Bool := false
  plus : Bool := false
  blank : Bool := false
  alternate : Bool := false
  zeros : Bool := false
  width : Nat := 0
  precision : Option Nat := none
  deriving Repr

/-- A text in a field. -/
def Spec.field (s : Spec) (text : List Char) : List Char :=
  let fill := List.replicate (s.width - text.length) ' '
  if s.left then text ++ fill else fill ++ text

/-- The digits of a number with its sign or mark in front, in a field. -/
def Spec.numberField (s : Spec) (front digits : List Char) (fillZeros : Bool) : List Char :=
  if s.zeros && !s.left && fillZeros then
    front ++ List.replicate (s.width - front.length - digits.length) '0' ++ digits
  else s.field (front ++ digits)

def Spec.sign (s : Spec) (negative : Bool) : List Char :=
  if negative then ['-'] else if s.plus then ['+'] else if s.blank then [' '] else []

/-- Digits with zeros in front, as many as the precision asks for. -/
def Spec.digits (s : Spec) (n : Nat) (row : List Char) : List Char :=
  match s.precision with
  | some p => if p = 0 && n = 0 then [] else List.replicate (p - row.length) '0' ++ row
  | none => row

def Spec.signed (s : Spec) (n : Int) : List Char :=
  s.numberField (s.sign (n < 0)) (s.digits n.natAbs (decimalDigits n.natAbs)) s.precision.isNone

def Spec.unsigned (s : Spec) (n : Nat) (letter : Char) : List Char :=
  let row := match letter with
    | 'o' => Nat.toDigits 8 n
    | 'x' => Nat.toDigits 16 n
    | 'X' => (Nat.toDigits 16 n).map Char.toUpper
    | _ => decimalDigits n
  let row := s.digits n row
  let row := if s.alternate && letter = 'o' && row.head? ≠ some '0' then '0' :: row else row
  let front := if s.alternate && n ≠ 0 then
      if letter = 'x' then ['0', 'x'] else if letter = 'X' then ['0', 'X'] else []
    else []
  s.numberField front row s.precision.isNone

def Spec.real (s : Spec) (n : Number) (letter : Char) : List Char :=
  let upper := letter.isUpper
  let word (text : String) : List Char := (if upper then text.toUpper else text).toList
  match n with
  | .infinite negative => s.numberField (s.sign negative) (word "inf") false
  | .none => s.numberField (s.sign false) (word "nan") false
  | .finite negative value =>
    let places := s.precision.getD 6
    let text := match letter.toLower with
      | 'f' => fixed value places s.alternate
      | 'e' => scientific value places s.alternate (if upper then 'E' else 'e')
      | _ => general value places s.alternate (if upper then 'E' else 'e')
    s.numberField (s.sign negative) text true

/-- The flags at the beginning of a conversion. -/
def flags : List Char → Spec → Spec × List Char
  | [], s => (s, [])
  | c :: rest, s =>
    match c with
    | '-' => flags rest { s with left := true }
    | '+' => flags rest { s with plus := true }
    | ' ' => flags rest { s with blank := true }
    | '#' => flags rest { s with alternate := true }
    | '0' => flags rest { s with zeros := true }
    | _ => (s, c :: rest)

/-! ## Whole formats -/

/-- How a program tells of what is wrong with an argument. -/
structure Manner where
  dialect : Dialect := {}
  /-- Whether numbers with places are kept as doubles. -/
  double : Bool := true
  /-- Whether letters for the sizes of numbers may stand in a conversion. -/
  sizes : Bool := false
  noNumber : String → String
  halfNumber : String → String
  outOfRange : String → String
  badDirective : String → String

/-- What was written so far. -/
structure Progress where
  text : List Char := []
  complaints : List String := []
  arguments : List String
  used : Bool := false
  /-- Whether nothing more is to be written. -/
  stopped : Bool := false
  /-- Whether the format itself is wrong. -/
  broken : Bool := false

namespace Progress

def add (p : Progress) (text : List Char) : Progress := { p with text := p.text ++ text }

def complain (p : Progress) (text : String) : Progress :=
  { p with complaints := p.complaints ++ [text] }

/-- The next argument, if there is one. -/
def next (p : Progress) : Option String × Progress :=
  (p.arguments.head?, { p with arguments := p.arguments.tail, used := true })

end Progress

/-- A whole number that an argument gives: a quote stands for the number of the character behind
it. -/
def wholeNumber (m : Manner) (low high : Int) (arg : Option String) (p : Progress) :
    Int × Progress :=
  match arg with
  | none => (0, p)
  | some arg =>
    match arg.toList with
    | [] => (0, p)
    | '"' :: c => (c.head?.map (·.toNat) |>.getD 0, p)
    | '\'' :: c => (c.head?.map (·.toNat) |>.getD 0, p)
    | cs =>
      let body := cs.dropWhile fun c => c = ' ' || ('\t' ≤ c && c ≤ '\r')
      let (negative, body) := match body with
        | '-' :: rest => (true, rest)
        | '+' :: rest => (false, rest)
        | rest => (false, rest)
      let (base, digits) : Nat × List Char := match body with
        | '0' :: 'x' :: c :: rest => if c.isAlphanum then (16, c :: rest) else (8, body)
        | '0' :: 'X' :: c :: rest => if c.isAlphanum then (16, c :: rest) else (8, body)
        | '0' :: _ => (8, body)
        | body => (10, body)
      let fits (c : Char) : Bool :=
        if base = 16 then c.isDigit || ('a' ≤ c.toLower && c.toLower ≤ 'f')
        else c.isDigit && c.toNat - '0'.toNat < base
      let row := digits.takeWhile fits
      let n := row.foldl (fun n c => n * base + hexDigitValue c) 0
      let value : Int := if negative then -n else n
      let p :=
        if row.isEmpty then p.complain (m.noNumber arg)
        else if row.length < digits.length then p.complain (m.halfNumber arg)
        else if value < low || high < value then p.complain (m.outOfRange arg)
        else p
      (max low (min high value), p)

def realNumber (m : Manner) (arg : Option String) (p : Progress) : Number × Progress :=
  let zero : Number := .finite false ⟨0, 1⟩
  match arg with
  | none => (zero, p)
  | some arg =>
    match arg.toList with
    | '"' :: c :: _ => (.finite false ⟨c.toNat, 1⟩, p)
    | '\'' :: c :: _ => (.finite false ⟨c.toNat, 1⟩, p)
    | cs =>
      match fraction? m.double (cs.dropWhile (· = ' ')) with
      | some (n, []) => (n, p)
      | some (n, _) => (n, p.complain (m.halfNumber arg))
      | none => (zero, if cs.isEmpty then p else p.complain (m.noNumber arg))

/-- A width or precision: a number, or an argument in place of it. -/
def measure (m : Manner) (cs : List Char) (p : Progress) : Int × List Char × Progress :=
  match cs with
  | '*' :: rest =>
    let (arg, p) := p.next
    let (n, p) := wholeNumber m (-(Nat.pow 2 31)) (Nat.pow 2 31 - 1) arg p
    (n, rest, p)
  | cs =>
    let row := cs.takeWhile Char.isDigit
    ((Text.digits? row).getD 0, cs.drop row.length, p)

/-- One conversion behind `%`. -/
def convert (m : Manner) (start : List Char) (p : Progress) : List Char × Progress :=
  let (s, rest) := flags start {}
  let (width, rest, p) := measure m rest p
  let s := { s with width := width.natAbs, left := s.left || width < 0 }
  let (s, rest, p) : Spec × List Char × Progress := match rest with
    | '.' :: rest =>
      let (n, rest, p) := measure m rest p
      ({ s with precision := if n < 0 then none else some n.toNat }, rest, p)
    | rest => (s, rest, p)
  let isSize (c : Char) : Bool := m.sizes && ['l', 'h', 'j', 'z', 't', 'L'].contains c
  let rest := rest.dropWhile isSize
  match rest with
  | [] =>
    let p := p.complain (m.badDirective (String.ofList ('%' :: start)))
    ([], { p with stopped := true, broken := true })
  | c :: after =>
    if c = 'd' || c = 'i' then
      let (arg, p) := p.next
      let (n, p) := wholeNumber m (-(Nat.pow 2 63)) (Nat.pow 2 63 - 1) arg p
      (after, p.add (s.signed n))
    else if ['o', 'u', 'x', 'X'].contains c then
      let (arg, p) := p.next
      let (n, p) := wholeNumber m (-(Nat.pow 2 63)) (Nat.pow 2 64 - 1) arg p
      (after, p.add (s.unsigned (n % Nat.pow 2 64).toNat c))
    else if ['e', 'E', 'f', 'F', 'g', 'G'].contains c then
      let (arg, p) := p.next
      let (n, p) := realNumber m arg p
      (after, p.add (s.real n c))
    else if c = 'c' then
      let (arg, p) := p.next
      (after, p.add (s.field ((arg.getD "").toList.take 1)))
    else if c = 's' then
      let (arg, p) := p.next
      let text := (arg.getD "").toList
      (after, p.add (s.field (s.precision.elim text text.take)))
    else if c = 'b' then
      let (arg, p) := p.next
      let text := (arg.getD "").toList
      let (text, stopped) := unescape m.dialect (text.length + 1) text
      (after, { p.add (s.field (s.precision.elim text text.take)) with stopped })
    else
      let length := start.length - after.length
      let directive := String.ofList ('%' :: start.take length)
      ([], { p.complain (m.badDirective directive) with stopped := true, broken := true })

/-- The format once through. -/
def once (m : Manner) : Nat → List Char → Progress → Progress
  | 0, _, p => p
  | _, [], p => p
  | fuel + 1, c :: rest, p =>
    if p.stopped then p
    else match c, rest with
      | '%', '%' :: rest => once m fuel rest (p.add ['%'])
      | '%', rest =>
        let (rest, p) := convert m rest p
        once m fuel rest p
      | '\\', 'c' :: _ =>
        if m.double then once m fuel rest (p.add ['\\']) else { p with stopped := true }
      | '\\', rest =>
        match escape? m.dialect rest with
        | some (text, rest) => once m fuel rest (p.add text)
        | none => once m fuel rest (p.add ['\\'])
      | c, rest => once m fuel rest (p.add [c])

/-- The format again and again until no argument is left. -/
def all (m : Manner) (format : List Char) : Nat → Progress → Progress
  | 0, p => p
  | fuel + 1, p =>
    let p := once m (format.length + 1) format { p with used := false }
    if p.stopped || p.arguments.isEmpty || !p.used then p else all m format fuel p

/-- What a format and arguments come to. -/
def run (m : Manner) (format : String) (arguments : List String) : Progress :=
  all m format.toList (arguments.length + 1) { arguments }

end Testbed.Rehearsal.Machine.Printf
