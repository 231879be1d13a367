import Testbed.Rehearsal.Machine.Tool.Expression
/-!
# Scripts for editing a stream

What a script for a stream of lines consists of: commands, the lines that they are for, and the
replacements that they make.
-/
namespace Testbed.Rehearsal.Machine.Tool.Sed

open Text (Pattern)

/-- A pattern of a script: the empty one stands for the last that was used. -/
abbrev Regex := Option Pattern

inductive Address
  | line (n : Nat)
  | lastLine
  /-- Every so many lines from one on. -/
  | every (first step : Nat)
  | fits (r : Regex)
  /-- So many lines more. -/
  | further (n : Nat)
  /-- Up to a line whose number is a multiple. -/
  | upTo (n : Nat)
  deriving DecidableEq, Repr, Inhabited

/-- What a replacement is made of. -/
inductive Part
  | text (cs : List Char)
  /-- What a group matched; zero is all of it. -/
  | group (n : Nat)
  /-- A change of case from here on: up or down, for one letter or for all, or none any more. -/
  | case (c : Char)
  deriving DecidableEq, Repr

structure Substitution where
  regex : Regex
  parts : List Part
  all : Bool := false
  number : Nat := 1
  prints : Bool := false
  file : Option String := none
  deriving Inhabited

inductive Action
  /-- Leads behind the end of the block where its addresses do not fit. -/
  | block (behind : Nat)
  | nothing
  | number
  | append (text : List Char)
  | insert (text : List Char)
  | change (text : List Char)
  | jump (label : String)
  | jumpIf (label : String) (replaced : Bool)
  | label (name : String)
  | delete
  | deleteFirst
  | print
  | printFirst
  | hold
  | holdMore
  | get
  | getMore
  | exchange
  | next
  | nextMore
  | quit (code : Nat) (prints : Bool)
  | readFile (path : String)
  | writeFile (path : String)
  | substitute (s : Substitution)
  | transliterate (table : List (Char × Char))
  | list (width : Option Nat)
  | zap
  | fileName
  deriving Inhabited

structure Command where
  first : Option Address := none
  second : Option Address := none
  negated : Bool := false
  action : Action := .nothing
  deriving Inhabited

end Testbed.Rehearsal.Machine.Tool.Sed
