import Testbed.Proofs.Transport.Lines
/-!
# Failures mean the same everywhere

There are several ways to run a command: for its result or its output, in the background, through
scp, on this machine. Callers tell a host that is not there from a command that failed, so all of
them have to judge an exit code alike.

Main statement: `failures_agree`, each of them gives what its last process means.
-/
namespace Testbed.Transport

open Program

/-- The ways in which the shell of a host is given a command that is waited for. -/
inductive ShellCall
  | remote (command : Command) (o : RunOptions)
  | output (command : Command)
  | result (command : Command)
  | background (command : Command) (o : RunOptions) (linux : o.os = .linux)

namespace ShellCall

abbrev Answer : ShellCall → Type
  | .output _ => String
  | .background _ _ _ => Background
  | .remote _ _ | .result _ => Result

def perform (t : Transport) (host : String) : (c : ShellCall) → Action c.Answer
  | .remote command o => t.runRemote host command o
  | .output command => t.ssh host command
  | .result command => t.sshResult host command
  | .background command o _ => t.runBackground host command o

def line : ShellCall → String
  | .remote command _ | .output command | .result command => command.toShell
  | .background command _ _ => detachedLine command.toShell

def options : ShellCall → RunOptions
  | .remote _ o | .background _ o _ => o
  | .output _ => {}
  | .result _ => { check := false }

/-- What a call answers when its command has a result. -/
def answer : (c : ShellCall) → Result → c.Answer
  | .output _ => Result.trimmed
  | .background _ _ _ => .detached
  | .remote _ _ | .result _ => id

theorem perform_eq {t : Transport} {host : String} (c : ShellCall) :
    c.perform t host = c.answer <$> t.runShell host c.line c.options := by
  cases c with
  | remote command o | result command => exact (id_map _).symm
  | output command => rfl
  | background command o linux =>
    change t.runBackground host command o = _
    rw [runBackground, linux]
    rfl

theorem runs_perform {t : Transport} {host : String} {c : ShellCall}
    {exchanges : List (Exchange interface)} {res : Except Failure c.Answer} :
    Runs (c.perform t host).run exchanges res ↔ ∃ verdict, res = verdict.map c.answer ∧
      Runs (t.runShell host c.line c.options).run exchanges verdict := by
  rw [perform_eq, runs_try_map]

end ShellCall

theorem agrees_of_copy {t : Transport} {host source target : String} {o : CopyOptions}
    {exchanges : List (Exchange interface)} {res : Except Failure Result}
    (h : Runs (t.copy host source target o).run exchanges res) :
    ∃ argv a, argv = Ssh.copyInvocation t.settings host source target
        (o.ignoreHostKeys.getD t.settings.ignoreHostKeys) o.direction ∧
      ran exchanges = [(argv, a)] ∧ Agrees (some host) o.check (display argv) none a res := by
  obtain ⟨a, hran, agrees⟩ := agrees_of_conclude none h
  exact ⟨_, a, rfl, hran, agrees⟩

theorem agrees_of_local {t : Transport} {argv : List String} {check : Bool}
    {exchanges : List (Exchange interface)} {res : Except Failure Result}
    (h : Runs (t.runLocal argv check).run exchanges res) :
    (argv = [] ∧ ran exchanges = [] ∧ ∃ cause, res = .error (.notStarted (display argv) cause)) ∨
      argv ≠ [] ∧ ∃ a, ran exchanges = [(argv, a)] ∧
        Agrees none check (display argv) none a res := by
  unfold runLocal at h
  by_cases empty : argv = []
  · subst empty
    obtain ⟨rfl, rfl⟩ := runs_throw.1 h
    exact .inl ⟨rfl, rfl, _, rfl⟩
  · have some_word : argv.isEmpty = false := by simpa using empty
    simp only [some_word, Bool.false_eq_true, ↓reduceIte] at h
    exact .inr ⟨empty, agrees_of_conclude none h⟩

/-- Only what goes through ssh or scp can fail to reach a host. -/
theorem Agrees.reached {check : Bool} {command : String} {banner : Option (List UInt8)}
    {a : Except IoError Output} {failure : Failure}
    (h : Agrees none check command banner a (.error failure)) : failure.isUnreachable = false := by
  match failure with
  | .unreachable address shown code text => cases ((h.unreachable ..).1 rfl).1
  | .failed .. | .notStarted .. => rfl

/-- **Failures mean the same everywhere.** In every run of a call, whatever it is answered, the
outcome is what the answer to the last process means: for the four ways in which a host is given a
line, where that is the line itself or the probe for the banner; for a copy; and for a command of
this machine, which is never unreachable. -/
theorem failures_agree (t : Transport) :
    (∀ (host : String) (c : ShellCall) {exchanges : List (Exchange interface)}
        {res : Except Failure c.Answer}, Runs (c.perform t host).run exchanges res →
      ∃ command banner a verdict,
        Decides t host c.line c.options (ran exchanges) command banner a ∧
        Agrees (some host) c.options.check command banner a verdict ∧ res = verdict.map c.answer) ∧
    (∀ (host source target : String) (o : CopyOptions) {exchanges : List (Exchange interface)}
        {res : Except Failure Result}, Runs (t.copy host source target o).run exchanges res →
      ∃ argv a, argv = Ssh.copyInvocation t.settings host source target
          (o.ignoreHostKeys.getD t.settings.ignoreHostKeys) o.direction ∧
        ran exchanges = [(argv, a)] ∧ Agrees (some host) o.check (display argv) none a res) ∧
    (∀ (argv : List String) (check : Bool) {exchanges : List (Exchange interface)}
        {res : Except Failure Result}, Runs (t.runLocal argv check).run exchanges res →
      ((argv = [] ∧ ran exchanges = [] ∧ ∃ cause, res = .error (.notStarted (display argv) cause)) ∨
        argv ≠ [] ∧ ∃ a, ran exchanges = [(argv, a)] ∧
          Agrees none check (display argv) none a res) ∧
      ∀ failure, res = .error failure → failure.isUnreachable = false) := by
  refine ⟨fun host c _ _ h => ?_, fun _ _ _ _ _ _ h => agrees_of_copy h, fun argv check _ _ h => ?_⟩
  · obtain ⟨verdict, rfl, line⟩ := ShellCall.runs_perform.1 h
    obtain ⟨command, banner, a, decides, agrees⟩ := decides_of_line line
    exact ⟨command, banner, a, verdict, decides, agrees, rfl⟩
  · have outcome := agrees_of_local h
    refine ⟨outcome, ?_⟩
    rintro failure rfl
    rcases outcome with ⟨-, -, cause, failed⟩ | ⟨-, a, -, agrees⟩
    · cases failed
      rfl
    · exact agrees.reached

/-- A host that shows a banner and on which every command fails; it cannot be copied to. Commands of
this machine fail with the code that says so of ssh. -/
def greeting : (r : Request) → Answer r
  | .run argv =>
    match argv.head? with
    | some "ssh" =>
      if argv.getLast? = some probe then .ok ⟨3, "hello\n".toUTF8.data.toList⟩
      else .ok ⟨7, "hello\noops\n".toUTF8.data.toList⟩
    | _ => .ok ⟨255, "lost\n".toUTF8.data.toList⟩
  | .start _ _ => .error ⟨"unused"⟩
  | .sleep _ | .log _ => ()

theorem failures_agree_of_greeting :
    let t : Transport := { settings := { stripBanner := true } }
    let listing := ((ShellCall.output (.line "ls")).perform t "host").run.follow greeting
    let copying := (t.copy "host" "a" "b" { check := false }).run.follow greeting
    let here := (t.runLocal ["ls"] true).run.follow greeting
    ((∃ command banner a verdict,
      Decides t "host" "ls" {} (ran listing.1) command banner a ∧
      Agrees (some "host") true command banner a verdict ∧
        listing.2 = verdict.map Result.trimmed) ∧
      (ran listing.1).length = 2 ∧ listing.2 = .error (.failed (some "host") "ls" 7 "oops")) ∧
    (∃ argv a, ran copying.1 = [(argv, a)] ∧
      Agrees (some "host") false (display argv) none a copying.2 ∧
      copying.2 = .error (.unreachable "host" (display argv) 255 "lost")) ∧
    (∀ failure, here.2 = .error failure → failure.isUnreachable = false) ∧
      here.2 = .error (.failed none "ls" 255 "lost") := by
  intro t listing copying here
  obtain ⟨shell, copies, locals⟩ := failures_agree t
  have shown := runs_follow (I := interface) greeting
    ((ShellCall.output (.line "ls")).perform t "host").run
  have sent := runs_follow (I := interface) greeting (t.copy "host" "a" "b" { check := false }).run
  have ran_here := runs_follow (I := interface) greeting (t.runLocal ["ls"] true).run
  obtain ⟨argv, a, rfl, alone, agrees⟩ := copies _ _ _ _ sent
  exact ⟨⟨shell _ _ shown, by decide +kernel, by rfl⟩, ⟨_, a, alone, agrees, by rfl⟩,
    (locals _ _ ran_here).2, by rfl⟩

end Testbed.Transport
