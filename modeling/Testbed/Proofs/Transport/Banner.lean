import Mathlib.Logic.ExistsUnique
import Testbed.Proofs.Transport.Classification
/-!
# Banners

A host that shows a banner shows it on every command, in front of what the command prints. A
transport that takes banners off asks the host for its banner first, by a probe, and goes on as one
that does not, with the banner taken from the output. Main statement: `banner_transparent`, apart
from the probe nothing is seen of the banner.
-/
namespace Testbed.Transport

open Program

variable {t : Transport} {host line : String} {o : RunOptions}

/-- The transport, with banners taken off or left where they are. -/
def stripping (t : Transport) (strip : Bool) : Transport :=
  { t with settings := { t.settings with stripBanner := strip } }

/-- The answer of a host that shows a banner in front of it. -/
def behind (banner : List UInt8) (a : Except IoError Output) : Except IoError Output :=
  a.map fun out => { out with bytes := banner ++ out.bytes }

theorem withoutBanner_append (banner bytes : List UInt8) (code : Int) :
    withoutBanner (some banner) ⟨code, banner ++ bytes⟩ = ⟨code, bytes⟩ := by
  simp [withoutBanner]

theorem withoutBanner_unrelated {banner : List UInt8} {out : Output}
    (other : ¬ banner <+: out.bytes) : withoutBanner (some banner) out = out := by
  simp [withoutBanner, other]

/-! ## Lines with the banner and without -/

theorem report_stripping (strip : Bool) (check : Bool) (a : Except IoError Output) :
    (t.stripping strip).report host line check a = t.report host line check a := by
  cases a <;> rfl

/-- A line on a host whose banners stay: its process, and what is left to do then. -/
theorem run_line :
    ((t.stripping false).runShell host line o).run =
      .ask (.run (t.sshInvocation host o ++ [line])) fun a =>
        (t.report host line o.check a).run := run_plain_line rfl

/-- A line on a host whose banners are taken off: the probe, then the process of the line, and what
is left to do once the banner is off. -/
theorem run_probed_line :
    ((t.stripping true).runShell host line o).run =
      .ask (.run (t.sshInvocation host o ++ [probe])) fun
        | .error cause => .done (.error (.notStarted probe cause))
        | .ok out =>
          if out.code = Ssh.connectionFailed then
            .done (.error (.unreachable host probe out.code (failureText out.bytes)))
          else
            .ask (.run (t.sshInvocation host o ++ [line])) fun a =>
              (t.report host line o.check (a.map (withoutBanner (some out.bytes)))).run := by
  rw [run_stripped_line rfl]
  congr 1
  funext a
  rcases a with cause | out
  · rfl
  · simp only [report_stripping]
    rfl

/-! ## Transports that take banners off -/

/-- **Once the banner is known.** The line is run, and what is done then is what would be done on a
host that answers without the banner. -/
theorem runs_probed_line {shown : Output} (reached : shown.code ≠ 255)
    {exchanges : List (Exchange interface)} {res : Except Failure Result} :
    Runs ((t.stripping true).runShell host line o).run
        (t.asked host o probe (.ok shown) :: exchanges) res ↔
      ∃ a rest, exchanges = t.asked host o line a :: rest ∧
        Runs ((t.stripping false).runShell host line o).run
          (t.asked host o line (a.map (withoutBanner (some shown.bytes))) :: rest) res := by
  rw [run_probed_line, run_line]
  refine (runs_ask_cons (I := interface)).trans ?_
  simp only [Ssh.connectionFailed, reached, if_false]
  constructor
  · intro run
    obtain ⟨a, rest, rfl, ended⟩ := runs_ask_iff.1 run
    exact ⟨a, rest, rfl, .ask ended⟩
  · rintro ⟨a, rest, rfl, run⟩
    exact .ask ((runs_ask_cons (I := interface)).1 run)

/-- The report on a line is one entry for the log, or none if its process did not start. -/
theorem existsUnique_report (t : Transport) (host line : String) (check : Bool)
    (a : Except IoError Output) :
    ∃! run : List (Exchange interface) × Except Failure Result,
      Runs (t.report host line check a).run run.1 run.2 := by
  refine ⟨(_, _), runs_report.2 ⟨rfl, rfl⟩, ?_⟩
  rintro ⟨rest, res⟩ run
  obtain ⟨rfl, rfl⟩ := runs_report.1 run
  rfl

namespace ShellCall

/-- Once the banner is known, what a call does is what it would do without the banner. -/
theorem runs_probed {c : ShellCall} {shown : Output} (reached : shown.code ≠ 255)
    {exchanges : List (Exchange interface)} {res : Except Failure c.Answer} :
    Runs (c.perform (t.stripping true) host).run
        (t.asked host c.options probe (.ok shown) :: exchanges) res ↔
      ∃ a rest, exchanges = t.asked host c.options c.line a :: rest ∧
        Runs (c.perform (t.stripping false) host).run
          (t.asked host c.options c.line (a.map (withoutBanner (some shown.bytes))) :: rest)
          res := by
  simp only [runs_perform, runs_probed_line reached]
  constructor
  · rintro ⟨verdict, rfl, a, rest, rfl, run⟩
    exact ⟨a, rest, rfl, verdict, rfl, run⟩
  · rintro ⟨a, rest, rfl, verdict, rfl, run⟩
    exact ⟨verdict, rfl, a, rest, rfl, run⟩

/-- The same where the answer to the command is known too. -/
theorem runs_probed_answered {c : ShellCall} {shown : Output} (reached : shown.code ≠ 255)
    {a : Except IoError Output} {rest : List (Exchange interface)} {res : Except Failure c.Answer} :
    Runs (c.perform (t.stripping true) host).run
        (t.asked host c.options probe (.ok shown) :: t.asked host c.options c.line a :: rest)
        res ↔
      Runs (c.perform (t.stripping false) host).run
        (t.asked host c.options c.line (a.map (withoutBanner (some shown.bytes))) :: rest) res := by
  rw [runs_probed reached]
  constructor
  · rintro ⟨a', rest', same, run⟩
    cases same
    exact run
  · exact fun run => ⟨a, rest, rfl, run⟩

/-- An answer to the command settles all that follows it. -/
theorem existsUnique_answered (c : ShellCall) (a : Except IoError Output) :
    ∃! run : List (Exchange interface) × Except Failure c.Answer,
      Runs (c.perform (t.stripping false) host).run
        (t.asked host c.options c.line a :: run.1) run.2 := by
  obtain ⟨⟨rest, verdict⟩, run, only⟩ :=
    existsUnique_report t host c.line c.options.check a
  have plain {rest : List (Exchange interface)} {verdict : Except Failure Result} :
      Runs ((t.stripping false).runShell host c.line c.options).run
          (t.asked host c.options c.line a :: rest) verdict ↔
        Runs (t.report host c.line c.options.check a).run rest verdict := by
    rw [run_line]
    exact runs_ask_cons (I := interface)
  refine ⟨(rest, verdict.map c.answer), runs_perform.2 ⟨verdict, rfl, plain.2 run⟩, ?_⟩
  rintro ⟨rest', res⟩ other
  obtain ⟨verdict', rfl, other⟩ := runs_perform.1 other
  cases only (rest', verdict') (plain.1 other)
  rfl

end ShellCall

theorem withoutBanner_behind (banner : List UInt8) (a : Except IoError Output) :
    (behind banner a).map (withoutBanner (some banner)) = a := by
  rcases a with cause | ⟨code, bytes⟩
  · rfl
  · exact congrArg Except.ok (withoutBanner_append banner bytes code)

/-- **Nothing is seen of a banner.** If the host has shown a banner, whatever its bytes, in answer
to the probe and was reached, a call that takes banners off goes on with its command, and:

* with an answer that stands behind the banner, it does the same and comes to the same, entries of
  the log and all fields of the outcome, as a call that leaves banners where they are does with the
  answer alone; there is exactly one thing that call does;
* an answer that does not begin with the banner is taken as it is. -/
theorem banner_transparent (t : Transport) (host : String) (c : ShellCall) {code : Int}
    (reached : code ≠ 255) (banner : List UInt8) :
    let probed := t.asked host c.options probe (.ok ⟨code, banner⟩)
    let answered := t.asked host c.options c.line
    (∀ exchanges res, Runs (c.perform (t.stripping true) host).run (probed :: exchanges) res →
      ∃ a rest, exchanges = answered a :: rest) ∧
    (∀ a, ∃! run : List (Exchange interface) × Except Failure c.Answer,
      Runs (c.perform (t.stripping false) host).run (answered a :: run.1) run.2) ∧
    (∀ a rest res,
      Runs (c.perform (t.stripping true) host).run
          (probed :: answered (behind banner a) :: rest) res ↔
        Runs (c.perform (t.stripping false) host).run (answered a :: rest) res) ∧
    ∀ out : Output, ¬ banner <+: out.bytes → ∀ rest res,
      (Runs (c.perform (t.stripping true) host).run (probed :: answered (.ok out) :: rest) res ↔
        Runs (c.perform (t.stripping false) host).run (answered (.ok out) :: rest) res) := by
  intro probed answered
  refine ⟨fun exchanges res run => ?_, c.existsUnique_answered, fun a rest res => ?_,
    fun out other rest res => ?_⟩
  · obtain ⟨a, rest, began, -⟩ := (c.runs_probed reached).1 run
    exact ⟨a, rest, began⟩
  · rw [c.runs_probed_answered reached, withoutBanner_behind]
  · have kept : (.ok out : Except IoError Output).map (withoutBanner (some banner)) = .ok out :=
      congrArg Except.ok (withoutBanner_unrelated other)
    rw [c.runs_probed_answered reached, kept]

def lettered : (r : Request) → Answer r
  | .run _ => .ok ⟨7, [0xC3, 0xA9]⟩
  | .start _ _ => .error ⟨"unused"⟩
  | .sleep _ | .log _ => ()

/-- The banner is the first half of the letter that follows it. What begins with the second half
does not begin with the banner. -/
theorem banner_transparent_of_half_letter :
    let t : Transport := {}
    let c : ShellCall := .output (.line "ls")
    let probed := t.asked "host" {} probe (.ok ⟨1, [0xC3]⟩)
    let other := t.asked "host" {} "ls" (.ok ⟨0, [0xA9]⟩)
    (1 : Int) ≠ 255 ∧
    (∃ entry,
      Runs (c.perform (t.stripping true) "host").run
        [probed, t.asked "host" {} "ls" (.ok ⟨7, [0xC3, 0xC3, 0xA9]⟩), ⟨.log entry, ()⟩]
        (.error (.failed (some "host") "ls" 7 "é")) ∧
      entry.text = "[host] ls - got error code: 7\né") ∧
    ¬ [0xC3] <+: ([0xA9] : List UInt8) ∧
    ∀ rest res, Runs (c.perform (t.stripping true) "host").run (probed :: other :: rest) res ↔
      Runs (c.perform (t.stripping false) "host").run (other :: rest) res := by
  intro t c probed other
  have reached : (1 : Int) ≠ 255 := by decide
  have differs : ¬ [0xC3] <+: ([0xA9] : List UInt8) := by decide
  have plain := runs_follow (I := interface) lettered (c.perform (t.stripping false) "host").run
  obtain ⟨-, -, behind, without⟩ := banner_transparent t "host" c reached [0xC3]
  exact ⟨reached, ⟨_, (behind (.ok ⟨7, [0xC3, 0xA9]⟩) _ _).2 plain, by decide +kernel⟩, differs,
    without ⟨0, [0xA9]⟩ differs⟩

end Testbed.Transport
