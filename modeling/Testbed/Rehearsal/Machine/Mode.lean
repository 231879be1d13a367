import Testbed.Rehearsal.Machine.Printf
/-!
# Modes of files

What may be done with a file, by its owner, by a group and by all others: three octal digits, in
front of which a fourth one stands for what is special. People write modes with letters too, as
changes to the mode that there was: `u+x,go-w`.
-/
namespace Testbed.Rehearsal.Machine.Mode

/-- All that a mode may hold. -/
def all : Nat := 0o7777

/-- What a mode holds besides some of it. -/
def without (mode some_ : Nat) : Nat := mode &&& (all ^^^ some_)

/-- What concerns those that a letter stands for. -/
def ofWho (c : Char) : Nat :=
  match c with
  | 'u' => 0o4700
  | 'g' => 0o2070
  | 'o' => 0o1007
  | _ => all

/-- What a letter permits to everybody. `X` stands for `x` where that has a meaning already. -/
def ofLetter (mode : Nat) (isDirectory : Bool) (c : Char) : Nat :=
  match c with
  | 'r' => 0o444
  | 'w' => 0o222
  | 'x' => 0o111
  | 'X' => if isDirectory || mode &&& 0o111 ≠ 0 then 0o111 else 0
  | 's' => 0o6000
  | 't' => 0o1000
  | _ => 0

/-- What stands behind an operator: permissions, or those that somebody has already. -/
def operand (mode : Nat) (isDirectory : Bool) (row : List Char) : Nat × List Char :=
  match row with
  | 'u' :: rest => (mode / 64 % 8 * 0o111, rest)
  | 'g' :: rest => (mode / 8 % 8 * 0o111, rest)
  | 'o' :: rest => (mode % 8 * 0o111, rest)
  | _ =>
    let letters := row.takeWhile (['r', 'w', 'x', 'X', 's', 't'].contains ·)
    (letters.foldl (fun bits c => bits ||| ofLetter mode isDirectory c) 0, row.drop letters.length)

/-- Operators with what stands behind them, one after another. -/
def operate (who : Option Nat) (withheld : Nat) (isDirectory : Bool) :
    Nat → Nat → List Char → Option Nat
  | 0, _, _ => none
  | _, mode, [] => some mode
  | fuel + 1, mode, operator :: rest =>
    let digits := rest.takeWhile Printf.isOctal
    let (bits, rest) :=
      if who.isNone && !digits.isEmpty then (Printf.octalValue digits, rest.drop digits.length)
      else
        let (bits, rest) := operand mode isDirectory rest
        (bits &&& who.getD (without all withheld), rest)
    match operator with
    | '+' => operate who withheld isDirectory fuel (mode ||| bits) rest
    | '-' => operate who withheld isDirectory fuel (without mode bits) rest
    | '=' => operate who withheld isDirectory fuel (without mode (who.getD all) ||| bits) rest
    | _ => none

/-- What stands in a mode between commas: who, and then operators and permissions. Without a word on
who is meant all are, but nothing is permitted that is withheld. -/
def part (withheld : Nat) (isDirectory : Bool) (mode : Nat) (text : List Char) : Option Nat :=
  let who := text.takeWhile (['u', 'g', 'o', 'a'].contains ·)
  let rest := text.drop who.length
  if rest.isEmpty then none
  else
    let meant := who.foldl (fun bits c => bits ||| ofWho c) 0
    operate (if who.isEmpty then none else some meant) withheld isDirectory (text.length + 1) mode
      rest

/-- The mode that letters make of one. -/
def symbolic? (withheld : Nat) (isDirectory : Bool) (mode : Nat) (text : String) : Option Nat :=
  (Text.cutAt ',' text.toList).foldlM (part withheld isDirectory) mode

/-- The mode that a text makes of one. A number stands for itself. -/
def read? (withheld : Nat) (isDirectory : Bool) (mode : Nat) (text : String) : Option Nat :=
  let cs := text.toList
  if cs.head?.any Printf.isOctal then
    if cs.all Printf.isOctal && Printf.octalValue cs ≤ all then some (Printf.octalValue cs)
    else none
  else symbolic? withheld isDirectory mode text

/-- A number in octal digits, with zeros in front up to a width. -/
def octal (width n : Nat) : String :=
  let digits := Nat.toDigits 8 n
  String.ofList (List.replicate (width - digits.length) '0' ++ digits)

/-- A mode in letters. -/
def letters (mode : Nat) : String :=
  let three (bits : Nat) (special : Bool) (mark : Char) : List Char :=
    [if bits &&& 4 ≠ 0 then 'r' else '-', if bits &&& 2 ≠ 0 then 'w' else '-',
      if bits &&& 1 ≠ 0 then (if special then mark else 'x')
      else if special then mark.toUpper else '-']
  String.ofList (three (mode / 64 % 8) (mode &&& 0o4000 ≠ 0) 's' ++
    three (mode / 8 % 8) (mode &&& 0o2000 ≠ 0) 's' ++ three (mode % 8) (mode &&& 0o1000 ≠ 0) 't')

end Testbed.Rehearsal.Machine.Mode
