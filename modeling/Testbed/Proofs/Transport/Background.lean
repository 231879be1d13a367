import Testbed.Proofs.Shell.Quoting
import Testbed.Proofs.Transport.Processes
/-!
# Commands left running

On Linux a command is detached by a line that has operators of its own: redirections, and `&` at its
end. The command is one word of that line and must stay so, whatever characters it has. On Windows
nothing is put around the command, and the process of ssh is left running.

Main statement: `background_keeps_command`, both ways the host is given the command as it is.
-/
namespace Testbed.Transport

open Program Shell

variable {t : Transport} {host : String}

/-! ## The detaching line -/

/-- What follows the command in the line that detaches it. -/
def redirections : String := "> /dev/null 2>&1 < /dev/null &"

/-- The words before the redirections; the last is the command. -/
def detaching (line : String) : List String := ["nohup", "sh", "-c", line]

theorem toList_detachedLine (line : String) :
    (detachedLine line).toList =
      joinChars ((detaching line).map String.toList) ++ ' ' :: redirections.toList := by
  have front : joinChars ((detaching line).map String.toList) =
      "nohup sh -c ".toList ++ quoteChars line.toList := by
    simp [detaching, joinChars, Text.joinBy, quoteChars, needsQuotes, special]
  have back : " > /dev/null 2>&1 < /dev/null &".toList = ' ' :: redirections.toList := by
    decide
  rw [front, ← back]
  -- the parts of the line are put in as texts, which leaves them as they are
  change ("nohup sh -c " ++ quote line ++ " > /dev/null 2>&1 < /dev/null &").toList = _
  have quoted : (quote line).toList = quoteChars line.toList := String.toList_ofList
  rw [String.toList_append, String.toList_append, quoted]

/-- **The command is one word.** Whatever is written in place of the redirections is read as it
stands, after the words that lead to the command and the command itself. -/
theorem splitChars_detaching (line : String) (rest : List Char) :
    splitChars (joinChars ((detaching line).map String.toList) ++ ' ' :: rest) =
      (splitChars rest).map ((detaching line).map String.toList ++ ·) :=
  splitChars_joinChars_append (by simp [detaching]) rest

theorem split_detachedLine (line : String) :
    split (detachedLine line) =
      some (detaching line ++ [">", "/dev/null", "2>&1", "<", "/dev/null", "&"]) := by
  have operators : splitChars redirections.toList =
      some ([">", "/dev/null", "2>&1", "<", "/dev/null", "&"].map String.toList) := by decide
  rw [split, toList_detachedLine, splitChars_detaching, operators]
  simp

/-! ## The processes that are left running -/

/-- The processes that were started and not waited for: the invocation, the file that its output
goes to, and whether it started. -/
def started (exchanges : List (Exchange interface)) :
    List (List String × Option String × Except IoError Process) :=
  exchanges.filterMap fun
    | ⟨.start argv log, a⟩ => some (argv, log, a)
    | _ => none

theorem started_eq_nil {exchanges : List (Exchange interface)}
    (waited : ∀ e ∈ exchanges, Waited e.request) : started exchanges = [] := by
  rw [started, List.filterMap_eq_nil_iff]
  rintro ⟨r, a⟩ mem
  match r, a, mem with
  | .start argv log, a, mem => exact absurd rfl (waited _ mem argv log)
  | .run _, _, _ | .sleep _, _, _ | .log _, _, _ => rfl

theorem runs_start {argv : List String} {log? : Option String}
    {exchanges : List (Exchange interface)} {res : Except Failure Process}
    (run : Runs (start host argv log?).run exchanges res) :
    ∃ a : Except IoError Process,
      exchanges = [noted ⟨.debug, .transport, s!"[{host}] spawning: {display argv}"⟩,
        ⟨.start argv log?, a⟩] ∧
      res = a.mapError (.notStarted (display argv)) := by
  obtain ⟨t₁, t₂, _, rfl, logged, begun⟩ := runs_lift_bind.1 run
  obtain rfl := (runs_request_iff (I := interface)).1 logged
  obtain ⟨t₁, t₂, a, rfl, asked, ended⟩ := runs_bind.1 begun
  obtain rfl := (runs_request_iff (I := interface)).1 asked
  rcases a with cause | process <;> obtain ⟨rfl, rfl⟩ := runs_pure_iff.1 ended
  · exact ⟨_, rfl, rfl⟩
  · exact ⟨_, rfl, rfl⟩

/-! ## Both ways -/

/-- On Linux all that is done is to give the shell of the host the line that detaches the
command. -/
theorem decides_of_background {command : Command} {o : RunOptions} (linux : o.os = .linux)
    {exchanges : List (Exchange interface)} {res : Except Failure Background}
    (run : Runs (t.runBackground host command o).run exchanges res) :
    started exchanges = [] ∧ ∃ shown banner a,
      Decides t host (detachedLine command.toShell) o (ran exchanges) shown banner a := by
  rw [runBackground, linux] at run
  obtain ⟨verdict, -, line⟩ := runs_try_map.1 run
  obtain ⟨shown, banner, a, decides, -⟩ := decides_of_line line
  exact ⟨started_eq_nil (asksOnly_of_runs line waited_runShell), shown, banner, a, decides⟩

/-- On Windows all that is done is to start one process of ssh. -/
theorem started_of_background {command : Command} {o : RunOptions} (windows : o.os = .windows)
    {exchanges : List (Exchange interface)} {res : Except Failure Background}
    (run : Runs (t.runBackground host command o).run exchanges res) :
    ran exchanges = [] ∧ ∃ a,
      started exchanges = [(t.sshInvocation host o ++ [command.toShell], none, a)] ∧
      ∀ process, res = .ok (.attached process) ↔ a = .ok process := by
  rw [runBackground, windows] at run
  obtain ⟨verdict, rfl, begun⟩ := runs_try_map.1 run
  obtain ⟨a, rfl, rfl⟩ := runs_start begun
  refine ⟨rfl, a, rfl, fun process => ?_⟩
  rcases a with cause | other <;> simp [Except.map, Except.mapError]

/-- **Detaching keeps the command as it is.** The line that detaches it has the command, text for
text, as one word between the words of the inner shell and the redirections, which are outside that
word: they are read as they would be read at the beginning of a line. If the command was given as
words, reading that one word gives these words back. On Linux this line is what the shell of the
host is given and no process is left running; on Windows the same text is the last argument of the
one process of ssh that is started, and nothing is run to its end. -/
theorem background_keeps_command (t : Transport) (host : String) (command : Command)
    (o : RunOptions) :
    split (detachedLine command.toShell) =
      some ["nohup", "sh", "-c", command.toShell, ">", "/dev/null", "2>&1", "<", "/dev/null", "&"] ∧
    (∃ front, (detachedLine command.toShell).toList = front ++ redirections.toList ∧
      ∀ rest, splitChars (front ++ rest) =
        (splitChars rest).map (["nohup", "sh", "-c", command.toShell].map String.toList ++ ·)) ∧
    (∀ argv, command = .words argv → split command.toShell = some argv) ∧
    (o.os = .linux → ∀ exchanges res, Runs (t.runBackground host command o).run exchanges res →
      started exchanges = [] ∧ ∃ shown banner a,
        Decides t host (detachedLine command.toShell) o (ran exchanges) shown banner a) ∧
    (o.os = .windows → ∀ exchanges res, Runs (t.runBackground host command o).run exchanges res →
      ran exchanges = [] ∧ ∃ a,
        started exchanges = [(t.sshInvocation host o ++ [command.toShell], none, a)] ∧
        ∀ process, res = .ok (.attached process) ↔ a = .ok process) := by
  have apart : (detachedLine command.toShell).toList =
      (joinChars ((detaching command.toShell).map String.toList) ++ [' ']) ++
        redirections.toList := by
    rw [toList_detachedLine, List.append_assoc]
    rfl
  refine ⟨split_detachedLine _, ⟨_, apart, fun rest => ?_⟩, ?_,
    fun linux _ _ run => decides_of_background linux run,
    fun windows _ _ run => started_of_background windows run⟩
  · rw [List.append_assoc]
    exact splitChars_detaching _ rest
  · rintro argv rfl
    exact split_joinWords argv

def obliging : (r : Request) → Answer r
  | .run _ => .ok ⟨0, []⟩
  | .start _ _ => .ok ⟨0, 4711⟩
  | .sleep _ | .log _ => ()

/-- A line with quotes, operators and a line feed, and one word with a quote and a blank in it. -/
theorem background_keeps_compound :
    let t : Transport := {}
    let compound := "cd 'my dir'; make > log 2>&1 &\nwait"
    let words : Command := .words ["echo", "it's"]
    let onLinux := (t.runBackground "host" (.line compound) {}).run.follow obliging
    let onWindows := (t.runBackground "host" words { os := .windows }).run.follow obliging
    split (detachedLine compound) =
      some ["nohup", "sh", "-c", compound, ">", "/dev/null", "2>&1", "<", "/dev/null", "&"] ∧
    (started onLinux.1 = [] ∧
      (ran onLinux.1).map (·.1.getLast?) = [some (detachedLine compound)]) ∧
    split words.toShell = some ["echo", "it's"] ∧
    ran onWindows.1 = [] ∧ started onWindows.1 =
      [(t.sshInvocation "host" {} ++ ["echo 'it'\\''s'"], none, .ok ⟨0, 4711⟩)] := by
  intro t compound words onLinux onWindows
  have detaching := runs_follow (I := interface) obliging
    (t.runBackground "host" (.line compound) {}).run
  have starting := runs_follow (I := interface) obliging
    (t.runBackground "host" words { os := .windows }).run
  obtain ⟨oneWord, -, -, linux, -⟩ := background_keeps_command t "host" (.line compound) {}
  obtain ⟨-, -, twice, -, windows⟩ := background_keeps_command t "host" words { os := .windows }
  exact ⟨oneWord, ⟨(linux rfl _ _ detaching).1, by decide +kernel⟩, twice _ rfl,
    (windows rfl _ _ starting).1, by decide +kernel⟩

end Testbed.Transport
