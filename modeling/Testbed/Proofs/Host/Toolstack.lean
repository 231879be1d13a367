import Testbed.Host
import Testbed.Proofs.Shell.Quoting
import Testbed.Proofs.Transport.Processes
/-!
# Commands of the toolstack

A toolstack command goes to the shell of its host as one line, the last argument of the one process
that runs it. `Host.Serves` is what a host may be asked for at all; `Host.Ran` says that what was
run is the line of some words.

Main statement: `words_reach_toolstack`, the shell reads from that line exactly the words that the
command is made of.
-/
namespace Testbed

open Program Transport

namespace Host

variable {h : Host} {t : List (Exchange Transport.interface)}

def process (h : Host) (line : String) : List String :=
  h.transport.sshInvocation h.address {} ++ [line]

/-! ## What a host is asked for -/

/-- What a host may be asked for: no process is run that does not give it a line, and none is left
running. -/
def Serves (h : Host) : Request → Prop
  | .run argv => ∃ line, argv = h.process line
  | .start _ _ => False
  | .sleep _ | .log _ => True

theorem works_ssh (command : Command) : Works h.Serves (h.ssh command).run :=
  .adapt (.try_map (works_runShell (fun _ => ⟨_, rfl⟩) fun _ => trivial))

theorem works_xe (action : String) (args : List Xe.Argument) :
    Works h.Serves (h.xe action args).run := works_ssh _

theorem works_xeList (action : String) (args : List Xe.Argument) :
    Works h.Serves (h.xeList action args).run := .try_map (works_ssh _)

theorem works_uuid : Works h.Serves h.uuid.run := by
  unfold uuid
  refine .try_bind (works_xeList _ _) fun uuids => ?_
  unfold theOnly
  split <;> trivial

/-! ## What is run -/

/-- A command whose text is wanted is a line whose code is checked. -/
theorem runs_ssh {command : Command} {res : Except Fault String} :
    Runs (h.ssh command).run t res ↔
      ∃ verdict, res = (Except.map Result.trimmed verdict).mapError Fault.command ∧
        Runs (h.transport.runShell h.address command.toShell {}).run t verdict := by
  have lifted : Runs (h.ssh command).run t res ↔ ∃ text, res = text.mapError Fault.command ∧
      Runs (h.transport.ssh h.address command).run t text := runs_adapt
  rw [lifted]
  constructor
  · rintro ⟨text, rfl, run⟩
    obtain ⟨verdict, rfl, line⟩ := runs_try_map.1 run
    exact ⟨verdict, rfl, line⟩
  · rintro ⟨verdict, rfl, run⟩
    exact ⟨_, rfl, runs_try_map.2 ⟨verdict, rfl, run⟩⟩

/-- What was run is one line, from which the shell reads these words. -/
def Ran (h : Host) (t : List (Exchange Transport.interface)) (words : List String) : Prop :=
  ∃ line shown banner a, Shell.split line = some words ∧
    Decides h.transport h.address line {} (ran t) shown banner a

theorem ran_of_ssh {words : List String} {res : Except Fault String}
    (run : Runs (h.ssh (.words words)).run t res) : h.Ran t words := by
  obtain ⟨verdict, -, line⟩ := runs_ssh.1 run
  obtain ⟨shown, banner, a, decides, -⟩ := decides_of_line line
  exact ⟨_, shown, banner, a, Shell.split_joinWords words, decides⟩

/-- **Words reach the toolstack.** Any list of words comes back from the line that it makes, so no
two lists make one line. The line of a toolstack command, which is the last argument of its process,
reads as the program, the action, each key with its value as one word, and the flag of the minimal
form at the end. -/
theorem words_reach_toolstack :
    (∀ argv : List String, Shell.split (Command.words argv).toShell = some argv) ∧
    Function.Injective (fun argv => (Command.words argv).toShell) ∧
    ∀ (h : Host) (action : String) (args : List (String × String))
        {t : List (Exchange Transport.interface)},
      (∀ {res : Except Fault String}, Runs (h.xe action args).run t res →
        h.Ran t ("xe" :: action :: args.map fun (key, value) => key ++ "=" ++ value)) ∧
      ∀ {res : Except Fault (List String)}, Runs (h.xeList action args).run t res →
        h.Ran t
          ("xe" :: action :: (args.map fun (key, value) => key ++ "=" ++ value) ++
            ["--minimal"]) := by
  refine ⟨Shell.split_joinWords, fun argv other same => ?_, fun h action args t => ⟨?_, ?_⟩⟩
  · have read : Shell.split (Command.words argv).toShell =
        Shell.split (Command.words other).toShell := congrArg Shell.split same
    rw [Command.toShell, Command.toShell, Shell.split_joinWords, Shell.split_joinWords] at read
    exact Option.some.inj read
  · intro res run
    have words := ran_of_ssh run
    rwa [Xe.words, if_neg (by decide), List.append_nil] at words
  · intro res run
    obtain ⟨_, -, run⟩ := runs_try_map.1 run
    exact ran_of_ssh run

def ending (code : Int) (text : String) : (r : Request) → Answer r
  | .run _ => .ok ⟨code, text.toUTF8.data.toList⟩
  | .start _ _ => .error ⟨"unused"⟩
  | .sleep _ | .log _ => ()

theorem hostile_words_reach_toolstack :
    let h : Host := { address := "host", transport := { settings := { stripBanner := true } } }
    let given := (h.xe "vm-param-set" [("name-label", "it's \\ $HOME;\n#"), ("", "")]).run
    let listed := (h.xeList "vm-list" [("name-label", "a b,c\"")]).run
    let answer : (r : Request) → Answer r := ending 0 ""
    h.Ran (given.follow (I := Transport.interface) answer).1
        ["xe", "vm-param-set", "name-label=it's \\ $HOME;\n#", "="] ∧
      h.Ran (listed.follow (I := Transport.interface) answer).1
        ["xe", "vm-list", "name-label=a b,c\"", "--minimal"] := by
  intro h given listed answer
  obtain ⟨-, -, commands⟩ := words_reach_toolstack
  exact ⟨(commands h _ _).1 (runs_follow (I := Transport.interface) answer given),
    (commands h _ _).2 (runs_follow (I := Transport.interface) answer listed)⟩

end Host

end Testbed
