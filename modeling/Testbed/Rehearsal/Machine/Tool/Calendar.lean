import Testbed.Rehearsal.Machine.Printf
import Testbed.Rehearsal.Machine.Tool.Act
/-!
# Dates

Dates as days since the beginning of the year 1970, and the tool that tells the time. All times are
those of the zero meridian.
-/
namespace Testbed.Rehearsal.Machine

/-- A day of the calendar that goes on as it is now to both sides. -/
structure Day where
  year : Int
  month : Nat
  day : Nat
  deriving DecidableEq, Repr

namespace Day

/-- The days from the first of January 1970 on. Years are counted from March, so that the day that
is put in comes last. -/
def number (d : Day) : Int :=
  let year := if d.month ≤ 2 then d.year - 1 else d.year
  let month := (d.month + 9) % 12
  year * 365 + year / 4 - year / 100 + year / 400 + (153 * month + 2) / 5 + d.day - 719469

/-- The day of a number. -/
def ofNumber (n : Int) : Day :=
  let shifted := n + 719468
  let era := shifted / 146097
  let inEra := (shifted % 146097).toNat
  let years := (inEra - inEra / 1460 + inEra / 36524 - inEra / 146096) / 365
  let inYear := inEra - (365 * years + years / 4 - years / 100)
  let month := (5 * inYear + 2) / 153
  let day := inYear - (153 * month + 2) / 5 + 1
  let number := if month < 10 then month + 3 else month - 9
  ⟨era * 400 + years + (if number ≤ 2 then 1 else 0), number, day⟩

def isLeap (year : Int) : Bool := year % 4 = 0 && (year % 100 ≠ 0 || year % 400 = 0)

/-- How many days a month has. -/
def monthLength (year : Int) (month : Nat) : Nat :=
  if month = 2 then (if isLeap year then 29 else 28)
  else if [4, 6, 9, 11].contains month then 30
  else 31

def isValid (d : Day) : Bool :=
  1 ≤ d.month && d.month ≤ 12 && 1 ≤ d.day && d.day ≤ monthLength d.year d.month

/-- The day of the week; Sunday is zero. -/
def weekday (n : Int) : Nat := ((n + 4) % 7).toNat

/-- The day of the year; the first one is one. -/
def ofYear (d : Day) : Nat := (d.number - ({ d with month := 1, day := 1 } : Day).number).toNat + 1

/-- The week of the year that a day is in, and the year that this week counts for: the week with the
first Thursday is the first one. -/
def week (n : Int) : Int × Nat :=
  let thursday := n - ((weekday n + 6) % 7 : Nat) + 3
  let d := ofNumber thursday
  (d.year, (d.ofYear - 1) / 7 + 1)

end Day

def weekdays : List String :=
  ["Sunday", "Monday", "Tuesday", "Wednesday", "Thursday", "Friday", "Saturday"]

def months : List String :=
  ["January", "February", "March", "April", "May", "June", "July", "August", "September", "October",
   "November", "December"]

/-- When the machine was switched on, in seconds since the beginning of 1970. -/
def switchedOn : Int := ({ year := 2026, month := 1, day := 1 } : Day).number * 86400

/-- The time of a machine for a number of nanoseconds since the beginning of 1970. -/
def machineTime (nanos : Int) : Int := nanos - switchedOn * 1000000000

/-- The nanoseconds since the beginning of 1970 for a time of a machine. -/
def worldTime (time : Int) : Int := time + switchedOn * 1000000000

/-! ## Reading dates -/

/-- The seconds since the beginning of 1970 at a time of a day. -/
def seconds? (d : Day) (hour minute second : Nat) : Option Int :=
  if d.isValid && hour < 24 && minute < 60 && second ≤ 60 then
    some (d.number * 86400 + hour * 3600 + minute * 60 + second)
  else none

/-- A time as `touch -t` reads it: month, day, hour and minute, with a year in front perhaps and
seconds behind. -/
def stampTime? (thisYear : Int) (text : String) : Option Int := do
  let cs := text.toList
  let front := cs.takeWhile (· ≠ '.')
  let second ← match cs.drop front.length with
    | [] => some 0
    | _ :: digits => if digits.length = 2 then Text.digits? digits else none
  let digits := front.drop (front.length - 8)
  let year ← match front.length with
    | 8 => some thisYear
    | 10 => (Text.digits? (front.take 2)).map fun n => ((if n < 69 then 2000 else 1900) + n : Int)
    | 12 => (Text.digits? (front.take 4)).map fun n => (n : Int)
    | _ => none
  let two (i : Nat) : Option Nat := Text.digits? ((digits.drop i).take 2)
  seconds? ⟨year, ← two 0, ← two 2⟩ (← two 4) (← two 6) second

/-- A number of fixed length at the front, and what stands behind it and a mark. -/
def fixedNumber? (length : Nat) (cs : List Char) : Option (Nat × List Char) :=
  if cs.length < length then none
  else (Text.digits? (cs.take length)).map fun n => (n, cs.drop length)

/-- A time of a day with colons. -/
def clockTime? (cs : List Char) : Option (Nat × Nat × Nat) := do
  let (hour, rest) ← fixedNumber? 2 cs
  match rest with
  | ':' :: rest =>
    let (minute, rest) ← fixedNumber? 2 rest
    match rest with
    | [] => return (hour, minute, 0)
    | ':' :: rest =>
      let (second, rest) ← fixedNumber? 2 rest
      if rest.isEmpty then return (hour, minute, second) else none
    | _ => none
  | _ => none

/-- A time in nanoseconds since the beginning of 1970, as people write it. -/
def writtenTime? (now : Int) (text : String) : Option Int :=
  let cs := (text.toList.dropWhile (· = ' '))
  let cs := (cs.reverse.dropWhile (· = ' ')).reverse
  let seconds : Option Int := match cs with
    | '@' :: '-' :: digits => (Text.digits? digits).map fun n => -(n : Int)
    | '@' :: digits => (Text.digits? digits).map fun n => (n : Int)
    | _ =>
      let today := now / 86400
      match String.ofList cs with
      | "now" => some now
      | "today" => some now
      | "" => some (today * 86400)
      | "tomorrow" => some (now + 86400)
      | "yesterday" => some (now - 86400)
      | _ => do
        let (year, rest) ← fixedNumber? 4 cs
        let behindDash (cs : List Char) : Option (List Char) :=
          if cs.head? = some '-' then some cs.tail else none
        let (month, rest) ← fixedNumber? 2 (← behindDash rest)
        let (day, rest) ← fixedNumber? 2 (← behindDash rest)
        let rest := match rest.reverse with
          | 'Z' :: before => before.reverse
          | 'C' :: 'T' :: 'U' :: ' ' :: before => before.reverse
          | _ => rest
        let (hour, minute, second) ← match rest with
          | [] => some (0, 0, 0)
          | 'T' :: rest => clockTime? rest
          | ' ' :: rest => clockTime? rest
          | _ => none
        seconds? ⟨year, month, day⟩ hour minute second
  seconds.map (· * 1000000000)

/-! ## Writing dates -/

/-- A number with zeros or blanks in front. -/
def padded (mark : Char) (width : Nat) (n : Int) : String :=
  let digits := Text.decimal n.natAbs
  let row := List.replicate (width - digits.length) mark
  (if n < 0 then "-" else "") ++ String.ofList row ++ digits

/-- A time, in nanoseconds since the beginning of 1970, in the form that a format asks for. -/
def dateText (nanos : Int) : Nat → List Char → String
  | 0, _ => ""
  | _, [] => ""
  | fuel + 1, '%' :: rest =>
    let flag := match rest with
      | c :: _ => if ['-', '_', '0', '^'].contains c then some c else none
      | [] => none
    let rest := if flag.isSome then rest.drop 1 else rest
    let number (width : Nat) (n : Int) (usual : Char) : String :=
      match flag with
      | some '-' => padded '0' 0 n
      | some '_' => padded ' ' width n
      | some '0' => padded '0' width n
      | _ => padded usual width n
    let word (text : String) : String :=
      if flag = some '^' then String.ofList (text.toList.map Char.toUpper) else text
    let seconds := nanos / 1000000000
    let n := seconds / 86400
    let d := Day.ofNumber n
    let inDay := (seconds % 86400).toNat
    let hour := inDay / 3600
    let hour12 := (hour + 11) % 12 + 1
    let weekday := weekdays[Day.weekday n]?.getD ""
    let month := months[d.month - 1]?.getD ""
    let short (text : String) : String := String.ofList (text.toList.take 3)
    let again (format : String) : String := dateText nanos fuel format.toList
    match rest with
    | [] => "%"
    | c :: rest =>
      let piece := match c with
        | 'Y' => number 4 d.year '0'
        | 'C' => number 2 (d.year / 100) '0'
        | 'y' => number 2 (d.year % 100) '0'
        | 'm' => number 2 d.month '0'
        | 'd' => number 2 d.day '0'
        | 'e' => number 2 d.day ' '
        | 'j' => number 3 d.ofYear '0'
        | 'H' => number 2 hour '0'
        | 'k' => number 2 hour ' '
        | 'I' => number 2 hour12 '0'
        | 'l' => number 2 hour12 ' '
        | 'M' => number 2 (inDay / 60 % 60) '0'
        | 'S' => number 2 (inDay % 60) '0'
        | 's' => number 1 seconds '0'
        | 'N' => number 9 (nanos % 1000000000) '0'
        | 'a' => word (short weekday)
        | 'A' => word weekday
        | 'b' => word (short month)
        | 'h' => word (short month)
        | 'B' => word month
        | 'p' => if hour < 12 then "AM" else "PM"
        | 'P' => if hour < 12 then "am" else "pm"
        | 'u' => number 1 ((Day.weekday n + 6) % 7 + 1 : Nat) '0'
        | 'w' => number 1 (Day.weekday n) '0'
        | 'V' => number 2 (Day.week n).2 '0'
        | 'G' => number 4 (Day.week n).1 '0'
        | 'U' => number 2 ((d.ofYear + 6 - Day.weekday n) / 7 : Nat) '0'
        | 'W' => number 2 ((d.ofYear + 6 - (Day.weekday n + 6) % 7) / 7 : Nat) '0'
        | 'q' => number 1 ((d.month - 1) / 3 + 1 : Nat) '0'
        | 'F' => again "%Y-%m-%d"
        | 'T' => again "%H:%M:%S"
        | 'X' => again "%H:%M:%S"
        | 'R' => again "%H:%M"
        | 'D' => again "%m/%d/%y"
        | 'x' => again "%m/%d/%y"
        | 'r' => again "%I:%M:%S %p"
        | 'c' => again "%a %b %e %H:%M:%S %Y"
        | 'z' => "+0000"
        | 'Z' => "UTC"
        | 'n' => "\n"
        | 't' => "\t"
        | '%' => "%"
        | _ => String.ofList ['%', c]
      piece ++ dateText nanos fuel rest
  | fuel + 1, c :: rest => c.toString ++ dateText nanos fuel rest

namespace Tool

open Act

def date : Tool := fun arguments => do
  let g : Grammar := { kinds := [⟨'u', "utc", .nothing⟩, ⟨'u', "universal", .nothing⟩,
    ⟨'d', "date", .argument⟩, ⟨'r', "reference", .argument⟩, ⟨'R', "rfc-email", .nothing⟩,
    ⟨'I', "iso-8601", .maybe⟩] }
  let (chosen, operands) ← g.all arguments
  let now := worldTime (← sys .now)
  let time ← match chosen.lastOf ['d', 'r'] with
    | some 'd' =>
      let text := (chosen.text? 'd').getD ""
      match writtenTime? (now / 1000000000) text with
      | some time => pure time
      | none => fail s!"invalid date {inQuotes text}"
    | some _ =>
      let path := (chosen.text? 'r').getD ""
      match ← sys (.status path) with
      | .ok s => pure (worldTime s.time)
      | .error e => fail s!"{shownName path}: {e.words.1}"
    | none => pure now
  let usual := match chosen.lastOf ['I', 'R'], chosen.text? 'I' with
    | some 'R', _ => "%a, %d %b %Y %H:%M:%S %z"
    | some _, some "seconds" => "%Y-%m-%dT%H:%M:%S+00:00"
    | some _, some "minutes" => "%Y-%m-%dT%H:%M+00:00"
    | some _, _ => "%Y-%m-%d"
    | none, _ => "%a %b %e %H:%M:%S %Z %Y"
  let format ← match operands with
    | [] => pure usual
    | [text] =>
      match text.toList with
      | '+' :: format => pure (String.ofList format)
      | _ => fail s!"invalid date {inQuotes text}"
    | _ :: text :: _ => misuse s!"extra operand {inQuotes text}"
  say (dateText time (format.length + 20) format.toList ++ "\n")

end Tool

end Testbed.Rehearsal.Machine
