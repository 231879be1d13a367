import Testbed.Proofs.Transport.Execution
/-!
# All that is done for a line

Whatever the settings are, a line for the shell of a host is run at once, or after a probe for the
banner, or not at all if the probe fails (`Course`). Once its process has ended one entry goes to
the log, and the outcome is what the answer means without the banner.

Main statements: `runs_runShell`, these are the runs of a line; `decides_of_line`, the process that
decides and what its answer means.
-/
namespace Testbed.Transport

open Program

variable {t : Transport} {host line : String} {o : RunOptions}

/-! ## What follows the answer to a line -/

/-- What comes of a line, by an answer without the banner. -/
def outcome (host line : String) (check : Bool) : Except IoError Output → Except Failure Result
  | .ok out => classify (some host) line out check
  | .error cause => .error (.notStarted line cause)

/-- What is left to do for a line once its process has answered. -/
def report (t : Transport) (host line : String) (check : Bool) :
    Except IoError Output → Action Result
  | .ok out => do
    t.logResult (some host) line out
    classify (some host) line out check
  | .error cause => throw (.notStarted line cause)

@[simp] theorem map_withoutBanner_none (a : Except IoError Output) :
    a.map (withoutBanner none) = a := by
  cases a <;> rfl

theorem run_conclude {argv : List String} {banner : Option (List UInt8)} {check : Bool} :
    (t.conclude (some host) argv line banner check).run =
      .ask (.run argv) fun a => (t.report host line check (a.map (withoutBanner banner))).run := by
  change Program.ask _ _ = _
  congr 1
  funext a
  cases a <;> rfl

def asked (t : Transport) (host : String) (o : RunOptions) (line : String)
    (a : Except IoError Output) : Exchange interface :=
  ⟨.run (t.sshInvocation host o ++ [line]), a⟩

/-- All that is said for a line, and what comes of it. -/
inductive Course (t : Transport) (host line : String) (o : RunOptions) :
    List (Exchange interface) → Except Failure Result → Prop
  | line (a : Except IoError Output) :
      t.settings.stripBanner = false →
      Course t host line o
        (t.asked host o line a :: (t.entries (some host) line a).map noted)
        (outcome host line o.check a)
  | afterProbe {shown : Output} (a : Except IoError Output) :
      t.settings.stripBanner → shown.code ≠ 255 →
      Course t host line o
        (t.asked host o probe (.ok shown) :: t.asked host o line a ::
          (t.entries (some host) line (a.map (withoutBanner (some shown.bytes)))).map noted)
        (outcome host line o.check (a.map (withoutBanner (some shown.bytes))))
  | probe (a : Except IoError Output) :
      t.settings.stripBanner → (∀ shown, a = .ok shown → shown.code = 255) →
      Course t host line o [t.asked host o probe a] (outcome host probe o.check a)

/-! ## The runs of a line -/

variable {exchanges : List (Exchange interface)} {res : Except Failure Result}

theorem runs_report {check : Bool} {a : Except IoError Output} :
    Runs (t.report host line check a).run exchanges res ↔
      exchanges = (t.entries (some host) line a).map noted ∧ res = outcome host line check a := by
  rcases a with cause | out
  · exact runs_throw
  · refine (runs_lift_bind (I := interface)).trans ⟨?_, ?_⟩
    · rintro ⟨_, _, _, rfl, logs, ended⟩
      obtain rfl := (runs_request_iff (I := interface)).1 logs
      obtain ⟨rfl, rfl⟩ := runs_done_iff.1 ended
      exact ⟨rfl, rfl⟩
    · rintro ⟨rfl, rfl⟩
      exact ⟨[_], [], (), rfl, (runs_request_iff (I := interface)).2 rfl, .done _⟩

/-- What comes of a probe that the host cannot be reached for. -/
theorem outcome_probe (host : String) (check : Bool) {shown : Output}
    (unreachable : shown.code = 255) :
    outcome host probe check (.ok shown) =
      .error (.unreachable host probe shown.code (failureText shown.bytes)) := by
  simp [outcome, classify, Ssh.connectionFailed, unreachable]

theorem run_plain_line (plain : t.settings.stripBanner = false) :
    (t.runShell host line o).run = .ask (.run (t.sshInvocation host o ++ [line])) fun a =>
      (t.report host line o.check a).run := by
  have unprobed : t.findBanner host o = pure none := if_neg (by simp [plain])
  have parts : t.runShell host line o = t.findBanner host o >>= fun banner =>
      t.conclude (some host) (t.sshInvocation host o ++ [line]) line banner o.check := rfl
  rw [parts, unprobed, pure_bind, run_conclude]
  congr 1
  funext a
  exact congrArg (fun a => (t.report host line o.check a).run) (map_withoutBanner_none a)

theorem run_stripped_line (strips : t.settings.stripBanner) :
    (t.runShell host line o).run = .ask (.run (t.sshInvocation host o ++ [probe])) fun
      | .error cause => .done (.error (.notStarted probe cause))
      | .ok out =>
        if out.code = Ssh.connectionFailed then
          .done (.error (.unreachable host probe out.code (failureText out.bytes)))
        else
          .ask (.run (t.sshInvocation host o ++ [line])) fun a =>
            (t.report host line o.check (a.map (withoutBanner (some out.bytes)))).run := by
  have probes : t.findBanner host o = do
      let out ← t.runLine host probe o
      if out.code = Ssh.connectionFailed then
        throw (.unreachable host probe out.code (failureText out.bytes))
      return some out.bytes := if_pos strips
  have parts : t.runShell host line o = t.findBanner host o >>= fun banner =>
      t.conclude (some host) (t.sshInvocation host o ++ [line]) line banner o.check := rfl
  rw [parts, probes]
  change Program.ask _ _ = _
  congr 1
  funext a
  rcases a with cause | out
  · rfl
  -- what is left of the search for the banner, and then the line
  change ((if out.code = Ssh.connectionFailed then _ else _ :
    Action (Option (List UInt8))) >>= fun banner =>
      t.conclude (some host) _ line banner o.check).run = _
  by_cases unreachable : out.code = Ssh.connectionFailed
  · rw [if_pos unreachable]
    simp only [unreachable, if_true]
    rfl
  · simp only [unreachable, if_false]
    rw [pure_bind, run_conclude]

theorem course_of_runs (run : Runs (t.runShell host line o).run exchanges res) :
    t.Course host line o exchanges res := by
  by_cases strips : t.settings.stripBanner
  · rw [run_stripped_line strips] at run
    obtain ⟨cause | shown, rest, rfl, later⟩ := (runs_ask_iff (I := interface)).1 run
    · obtain ⟨rfl, rfl⟩ := runs_done_iff.1 later
      exact .probe _ strips nofun
    by_cases unreachable : shown.code = 255
    · simp only [Ssh.connectionFailed, unreachable, if_true] at later
      obtain ⟨rfl, rfl⟩ := runs_done_iff.1 later
      rw [← unreachable, ← outcome_probe host o.check unreachable]
      refine .probe _ strips fun other ok => ?_
      cases ok
      exact unreachable
    · simp only [Ssh.connectionFailed, unreachable, if_false] at later
      obtain ⟨a, rest, rfl, ended⟩ := runs_ask_iff.1 later
      obtain ⟨rfl, rfl⟩ := runs_report.1 ended
      exact .afterProbe a strips unreachable
  · have plain : t.settings.stripBanner = false := by simpa using strips
    rw [run_plain_line plain] at run
    obtain ⟨a, rest, rfl, ended⟩ := (runs_ask_iff (I := interface)).1 run
    obtain ⟨rfl, rfl⟩ := runs_report.1 ended
    exact .line a plain

theorem runs_of_course (course : t.Course host line o exchanges res) :
    Runs (t.runShell host line o).run exchanges res := by
  cases course with
  | line a plain =>
    rw [run_plain_line plain]
    exact .ask (runs_report.2 ⟨rfl, rfl⟩)
  | @afterProbe shown a strips reached =>
    rw [run_stripped_line strips]
    refine (runs_ask_cons (I := interface)).2 ?_
    simp only [Ssh.connectionFailed, reached, if_false]
    exact .ask (runs_report.2 ⟨rfl, rfl⟩)
  | probe a strips missed =>
    rw [run_stripped_line strips]
    refine (runs_ask_cons (I := interface)).2 ?_
    rcases a with cause | shown
    · exact .done _
    · have unreachable := missed shown rfl
      rw [outcome_probe host o.check unreachable]
      simp only [Ssh.connectionFailed, unreachable, if_true]
      exact .done _

/-- **The runs of a line.** -/
theorem runs_runShell :
    Runs (t.runShell host line o).run exchanges res ↔ t.Course host line o exchanges res :=
  ⟨course_of_runs, runs_of_course⟩

/-! ## What is run for a line -/

/-- What comes of an answer is what it means without the banner. -/
theorem agrees_outcome (host : String) (check : Bool) (command : String)
    (banner : Option (List UInt8)) (a : Except IoError Output) :
    Agrees (some host) check command banner a
      (outcome host command check (a.map (withoutBanner banner))) := by
  rcases a with cause | out
  · exact agrees_notStarted _ check command banner cause
  · exact agrees_classify _ check command banner out

/-- What the log says for a line once a process has decided. A probe for the banner decides before
any is known, and leaves nothing in the log. -/
def lineEntries (t : Transport) (host command : String) (banner : Option (List UInt8))
    (a : Except IoError Output) : List Log.Entry :=
  if t.settings.stripBanner ∧ banner = none then []
  else t.entries (some host) command (a.map (withoutBanner banner))

/-- What one process decides for a line: its outcome, and all that the log says. -/
theorem Course.decides (course : t.Course host line o exchanges res) :
    ∃ command banner a, Decides t host line o (ran exchanges) command banner a ∧
      res = outcome host command o.check (a.map (withoutBanner banner)) ∧
      logged exchanges = t.lineEntries host command banner a := by
  cases course with
  | line a plain =>
    refine ⟨line, none, a, ?_, by rw [map_withoutBanner_none], ?_⟩
    · have all : ran (t.asked host o line a :: (t.entries (some host) line a).map noted) =
          (t.sshInvocation host o ++ [line], a) :: ran ((t.entries (some host) line a).map noted) :=
        rfl
      rw [all, ran_noted]
      exact .line a plain
    · have kept : ¬ (t.settings.stripBanner ∧ (none : Option (List UInt8)) = none) := by
        simp [plain]
      rw [lineEntries, if_neg kept, map_withoutBanner_none]
      exact logged_noted (t.entries (some host) line a)
  | @afterProbe shown a strips reached =>
    let a' := a.map (withoutBanner (some shown.bytes))
    refine ⟨line, some shown.bytes, a, ?_, rfl, ?_⟩
    · have all : ran (t.asked host o Transport.probe (.ok shown) :: t.asked host o line a ::
          (t.entries (some host) line a').map noted) =
          (t.sshInvocation host o ++ [Transport.probe], .ok shown) ::
            (t.sshInvocation host o ++ [line], a) ::
            ran ((t.entries (some host) line a').map noted) := rfl
      rw [all, ran_noted]
      exact .afterProbe a strips reached
    · have kept : ¬ (t.settings.stripBanner ∧ some shown.bytes = none) := nofun
      rw [lineEntries, if_neg kept]
      exact logged_noted (t.entries (some host) line a')
  | probe a strips missed =>
    refine ⟨Transport.probe, none, a, .probe a strips missed, by rw [map_withoutBanner_none], ?_⟩
    rw [lineEntries, if_pos ⟨strips, rfl⟩]
    rfl

theorem decides_of_line (run : Runs (t.runShell host line o).run exchanges res) :
    ∃ command banner a, Decides t host line o (ran exchanges) command banner a ∧
      Agrees (some host) o.check command banner a res := by
  obtain ⟨command, banner, a, decides, rfl, -⟩ := (runs_runShell.1 run).decides
  exact ⟨command, banner, a, decides, agrees_outcome ..⟩

end Testbed.Transport
