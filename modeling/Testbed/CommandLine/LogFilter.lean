import Testbed.Log
import Testbed.Text.Blank
import Testbed.Text.Numeral
import Testbed.Text.Pattern.Expression
import Testbed.Text.Pieces
/-!
# Log filters

Which log entries are shown is told by directives, with commas between them: `info` for every
target, `poolcheck::wait=debug` for the targets that begin so, or a target alone for all of its
entries. The longest directive that fits an entry decides; without any directive only errors are
shown. What follows a slash is an expression, and some part of the text of an entry has to match it.
-/
namespace Testbed.CommandLine

/-- The target that the entries of a part of the library go to. -/
def targetOf : Log.Source → String
  | .commandLine => "poolcheck"
  | .transport => "poolcheck::exec"
  | .process => "poolcheck::exec::process"
  | .wait => "poolcheck::wait"
  | .host => "poolcheck::remote::host"
  | .guest => "poolcheck::remote::vm"
  | .storage => "poolcheck::remote::sr"
  | .disk => "poolcheck::remote::vdi"
  | .network => "poolcheck::remote::network"
  | .console => "poolcheck::monitor"

/-- The entries up to a rank are shown of the targets that begin with `target`. -/
structure Directive where
  target : List Char
  maxRank : Nat
  deriving DecidableEq, Repr

structure LogFilter where
  directives : List Directive
  /-- What some part of the text of every shown entry matches. -/
  part : Option Text.Pattern := none
  deriving DecidableEq, Repr

namespace LogFilter

/-- The rank that a name stands for; `off` is below every entry. -/
def rankOfName? (name : List Char) : Option Nat :=
  match String.ofList (name.map Char.toLower) with
  | "off" => some 0
  | "error" => some Log.Level.error.rank
  | "warn" => some Log.Level.warn.rank
  | "info" => some Log.Level.info.rank
  | "debug" => some Log.Level.debug.rank
  | "trace" => some Log.Level.trace.rank
  | _ => none

/-- Reads one directive; what cannot be read is given back. -/
def directiveOf (s : List Char) : Except (List Char) Directive :=
  match Text.cutAt '=' s with
  | [only] =>
    match rankOfName? only with
    | some rank => .ok ⟨[], rank⟩
    | none => .ok ⟨only, Log.Level.trace.rank⟩
  | [target, level] =>
    let level := Text.trimChars level
    if level.isEmpty then .ok ⟨target, Log.Level.trace.rank⟩
    else match rankOfName? level with
      | some rank => .ok ⟨target, rank⟩
      | none => .error level
  | _ => .error s

/-- What is said of a directive that cannot be read. -/
def warning (s : List Char) : String :=
  s!"warning: invalid logging spec '{String.ofList s}', ignoring it"

/-- The directives that can be read, and warnings about the others. -/
def readAll : List (List Char) → List Directive × List String
  | [] => ([], [])
  | s :: rest =>
    let (directives, warnings) := readAll rest
    if s.isEmpty then (directives, warnings)
    else match directiveOf s with
      | .ok d => (d :: directives, warnings)
      | .error bad => (directives, warning bad :: warnings)

/-- Reads a filter; the warnings are about what was ignored. -/
def parse (spec : String) : LogFilter × List String :=
  let read (directives : List Char) : List Directive × List String :=
    readAll ((Text.cutAt ',' directives).map Text.trimChars)
  match Text.cutAt '/' spec.toList with
  | [directives] =>
    let (directives, warnings) := read directives
    ({ directives }, warnings)
  | [directives, part] =>
    let (directives, warnings) := read directives
    match Text.Pattern.Expression.read part with
    | .ok p => ({ directives, part := some p }, warnings)
    | .error m =>
      ({ directives }, warnings ++ [s!"warning: invalid regex filter - {m.report part}"])
  | _ => ({ directives := [] }, [s!"{warning spec.toList} (too many '/'s)"])

/-- The longer of two directives; of two of one length the one that came later. -/
def longer (best : Option Directive) (d : Directive) : Option Directive :=
  match best with
  | some b => if b.target.length ≤ d.target.length then some d else some b
  | none => some d

/-- The rank up to which the entries of a target are shown. -/
def maxRank (f : LogFilter) (target : List Char) : Nat :=
  if f.directives.isEmpty then Log.Level.error.rank
  else
    let fitting := f.directives.filter fun d => Text.startsWith d.target target
    ((fitting.foldl longer none).map (·.maxRank)).getD 0

/-- Whether an entry is shown. -/
def shows (f : LogFilter) (e : Log.Entry) : Bool :=
  e.level.rank ≤ f.maxRank (targetOf e.source).toList &&
    f.part.all (·.occursIn e.text.toList)

end LogFilter

end Testbed.CommandLine
