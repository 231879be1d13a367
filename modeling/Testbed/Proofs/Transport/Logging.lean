import Testbed.Proofs.Text.Elision
import Testbed.Proofs.Transport.Background
import Testbed.Proofs.Transport.Classification
/-!
# What the log shows of an output

A process that was waited for makes one entry of the log: a heading, and below it its output, of
which only the first lines are shown. A process that is left running is announced, and its output is
not looked at. What callers get is not cut.

Main statement: `log_shows_first_lines`.
-/
namespace Testbed.Transport

open Program Text

variable {t : Transport} {exchanges : List (Exchange interface)}

/-- What the log says of a process above its output. -/
def heading (host : Option String) (command : String) (code : Int) : String :=
  (match host with
    | some address => s!"[{address}] "
    | none => "") ++
  command ++ if code = 0 then "" else s!" - got error code: {signedDecimal code}"

theorem resultText_eq (maxLines : ℕ) (host : Option String) (command : String) (out : Output) :
    resultText maxLines host command out =
      heading host command out.code ++ "\n" ++ elide (trimEnd (decode out.bytes)) maxLines := by
  unfold resultText heading
  generalize elide (trimEnd (decode out.bytes)) maxLines = shown
  rcases host with _ | address <;> rfl

def announcement (t : Transport) (host : String) (command : Command) (o : RunOptions) : Log.Entry :=
  ⟨.debug, .transport,
    s!"[{host}] spawning: {display (t.sshInvocation host o ++ [command.toShell])}"⟩

/-- An entry of the log for a process and its answer: what is shown below the heading is the output,
cut to the number of lines that are allowed. -/
def Shows (t : Transport) (host : Option String) (command : String)
    (banner : Option (List UInt8)) (a : Except IoError Output) (entry : Log.Entry) : Prop :=
  ∃ out bytes shown, a = .ok out ∧ Stripped banner out.bytes bytes ∧
    shown = elide (trimEnd (decode bytes)) t.settings.maxLogLines ∧
    entry = ⟨.debug, .transport, heading host command out.code ++ "\n" ++ shown⟩ ∧
    (lines shown.toList).length ≤ max t.settings.maxLogLines 2

theorem shows_of_mem_entries {host : Option String} {command : String}
    {banner : Option (List UInt8)} {a : Except IoError Output} {entry : Log.Entry}
    (mem : entry ∈ t.entries host command (a.map (withoutBanner banner))) :
    t.Shows host command banner a entry := by
  rcases a with cause | out
  · cases mem
  obtain rfl := List.mem_singleton.1 mem
  refine ⟨out, _, _, rfl, stripped_iff.2 rfl, rfl, ?_, ?_⟩
  · rw [resultText_eq, code_withoutBanner]
  · rw [elide, String.toList_ofList]
    exact length_lines_elideChars_le _ _

theorem shows_of_mem_lineEntries {host command : String} {banner : Option (List UInt8)}
    {a : Except IoError Output} {entry : Log.Entry}
    (mem : entry ∈ t.lineEntries host command banner a) :
    t.Shows (some host) command banner a entry := by
  by_cases probed : t.settings.stripBanner ∧ banner = none
  · rw [lineEntries, if_pos probed] at mem
    cases mem
  · rw [lineEntries, if_neg probed] at mem
    exact shows_of_mem_entries mem

theorem shows_of_conclude {host : Option String} {argv : List String} {command : String}
    {check : Bool} {res : Except Failure Result}
    (run : Runs (t.conclude host argv command none check).run exchanges res) :
    ∃ a, ran exchanges = [(argv, a)] ∧ Agrees host check command none a res ∧
      logged exchanges = t.entries host command a ∧
      ∀ entry ∈ logged exchanges, t.Shows host command none a entry := by
  obtain ⟨a, rfl, agrees⟩ := said_of_conclude none run
  have all := logged_noted (t.entries host command (a.map (withoutBanner none)))
  refine ⟨a, congrArg (List.cons (argv, a)) (ran_noted _), agrees, ?_, fun entry mem => ?_⟩
  · exact all.trans (congrArg (t.entries host command) (map_withoutBanner_none a))
  · exact shows_of_mem_entries (all ▸ mem)

/-- **What the log shows of an output.** Let at most `m` lines be shown.

A text is left alone if and only if it has at most `m` lines. Otherwise `m` lines are left, the
marker as the last of them, and each other is the line of the text in its place, perhaps without a
carriage return at its end. Showing it again with room for as many lines or more changes nothing.

Whatever way a command is run in, the log has one entry for the process that decides if that could
be started, and none for a probe. What the entry shows of the output is the output cut like this,
and what comes of the command has the output as it is. Of a process that is not waited for the log
shows no output. -/
theorem log_shows_first_lines :
    (∀ (text : String) (maxLines : ℕ),
      let m := max maxLines 2
      let shown := elide text maxLines
      (shown = text ↔ (lines text.toList).length ≤ m) ∧
      (m < (lines text.toList).length →
        (lines shown.toList).length = m ∧
        (lines shown.toList).getLast? = some "(...)".toList ∧
        ∀ i < m - 1, ∃ line kept, (lines text.toList)[i]? = some line ∧
          (lines shown.toList)[i]? = some kept ∧ (line = kept ∨ line = kept ++ ['\r'])) ∧
      ∀ larger, maxLines ≤ larger → elide shown larger = shown) ∧
    ∀ (t : Transport) (exchanges : List (Exchange interface)),
      (∀ (host : String) (c : ShellCall) {res : Except Failure c.Answer},
        Runs (c.perform t host).run exchanges res →
        ∃ command banner a verdict,
          Decides t host c.line c.options (ran exchanges) command banner a ∧
          Agrees (some host) c.options.check command banner a verdict ∧
          res = verdict.map c.answer ∧
          logged exchanges = t.lineEntries host command banner a ∧
          ∀ entry ∈ logged exchanges, t.Shows (some host) command banner a entry) ∧
      (∀ (host source target : String) (o : CopyOptions) {res : Except Failure Result},
        Runs (t.copy host source target o).run exchanges res →
        ∃ argv a, ran exchanges = [(argv, a)] ∧
          Agrees (some host) o.check (display argv) none a res ∧
          logged exchanges = t.entries (some host) (display argv) a ∧
          ∀ entry ∈ logged exchanges, t.Shows (some host) (display argv) none a entry) ∧
      (∀ (argv : List String) (check : Bool) {res : Except Failure Result},
        Runs (t.runLocal argv check).run exchanges res →
        (argv = [] ∧ logged exchanges = []) ∨
          ∃ a, ran exchanges = [(argv, a)] ∧ Agrees none check (display argv) none a res ∧
            logged exchanges = t.entries none (display argv) a ∧
            ∀ entry ∈ logged exchanges, t.Shows none (display argv) none a entry) ∧
      (∀ (host : String) (command : Command) (o : RunOptions) (log : String)
          {res : Except Failure Process},
        Runs (t.startLogged host command o log).run exchanges res →
        logged exchanges = [t.announcement host command o]) ∧
      ∀ (host : String) (command : Command) (o : RunOptions) {res : Except Failure Background},
        o.os = .windows → Runs (t.runBackground host command o).run exchanges res →
        logged exchanges = [t.announcement host command o] := by
  refine ⟨fun text maxLines => ⟨?_, fun long => ⟨?_, ?_, fun i kept => ?_⟩, fun larger le => ?_⟩,
    fun t exchanges => ⟨fun host c res run => ?_, fun host source target o res run => ?_,
      fun argv check res run => ?_, fun host command o log res run => ?_,
      fun host command o res windows run => ?_⟩⟩
  · rw [← String.toList_inj, elide, String.toList_ofList]
    exact elideChars_eq_self_iff
  · rw [elide, String.toList_ofList]
    exact length_lines_elided long
  · rw [elide, String.toList_ofList, lines_elided long]
    exact List.getLast?_concat
  · obtain ⟨line, there, cut⟩ := getElem?_lines_elided long kept
    rw [elide, String.toList_ofList]
    exact ⟨line, dropReturn line, there, cut, eq_dropReturn_or line⟩
  · rw [elide, elide, String.toList_ofList, elideChars_elideChars le]
  · obtain ⟨verdict, rfl, line⟩ := ShellCall.runs_perform.1 run
    obtain ⟨command, banner, a, decides, rfl, entries⟩ := (runs_runShell.1 line).decides
    exact ⟨command, banner, a, _, decides, agrees_outcome .., rfl, entries,
      fun entry mem => shows_of_mem_lineEntries (entries ▸ mem)⟩
  · obtain ⟨a, alone, agrees, entries, shows_⟩ := shows_of_conclude run
    exact ⟨_, a, alone, agrees, entries, shows_⟩
  · by_cases empty : argv = []
    · subst empty
      obtain ⟨rfl, -⟩ := runs_throw.1 run
      exact .inl ⟨rfl, rfl⟩
    · rw [runLocal, if_neg (by simpa using empty)] at run
      exact .inr (shows_of_conclude run)
  · obtain ⟨a, rfl, -⟩ := runs_start run
    rfl
  · rw [runBackground, windows] at run
    obtain ⟨_, -, begun⟩ := runs_try_map.1 run
    obtain ⟨a, rfl, -⟩ := runs_start begun
    rfl

/-- Programs that print three lines, the first of which ends in two carriage returns. -/
def talkative : (r : Request) → Answer r
  | .run _ => .ok ⟨0, "a\r\r\nb\nc\n".toUTF8.data.toList⟩
  | .start _ _ => .ok ⟨0, 4711⟩
  | .sleep _ | .log _ => ()

/-- Two lines are shown, although only one is allowed. -/
theorem two_lines_of_talkative :
    let t : Transport := { settings := { maxLogLines := 1 } }
    let text := "a\r\r\nb\nc"
    let listed := (t.sshResult "host" (.line "ls")).run.follow (I := interface) talkative
    let copied := (t.copy "host" "here" "there" {}).run.follow (I := interface) talkative
    let here := (t.runLocal ["ls"] true).run.follow (I := interface) talkative
    let tailed :=
      (t.startLogged "host" (.line "tail") {} "log").run.follow (I := interface) talkative
    let windows : RunOptions := { os := .windows }
    let left := (t.runBackground "host" (.line "dir") windows).run.follow (I := interface) talkative
    (lines (elide text 1).toList).length = 2 ∧ elide (elide text 1) 3 = elide text 1 ∧
      (∃ line kept, (lines text.toList)[0]? = some line ∧
        (lines (elide text 1).toList)[0]? = some kept ∧ (line = kept ∨ line = kept ++ ['\r'])) ∧
      (∃ command banner a, logged listed.1 = t.lineEntries "host" command banner a ∧
        ∀ entry ∈ logged listed.1, t.Shows (some "host") command banner a entry) ∧
      (∃ command a, logged copied.1 = t.entries (some "host") command a ∧
        ∀ entry ∈ logged copied.1, t.Shows (some "host") command none a entry) ∧
      (∃ a, logged here.1 = t.entries none "ls" a ∧
        ∀ entry ∈ logged here.1, t.Shows none "ls" none a entry) ∧
      logged tailed.1 = [t.announcement "host" (.line "tail") {}] ∧
      logged left.1 = [t.announcement "host" (.line "dir") windows] := by
  intro t text listed copied here tailed windows left
  obtain ⟨texts, runs⟩ := log_shows_first_lines
  obtain ⟨-, cut, again⟩ := texts text 1
  have long : max 1 2 < (lines text.toList).length := by decide
  obtain ⟨length, -, kept⟩ := cut long
  have follows {α : Type} (x : Action α) := runs_follow (I := interface) talkative x.run
  obtain ⟨command, banner, a, -, -, -, -, shell⟩ :=
    (runs t listed.1).1 "host" (.result (.line "ls")) (follows _)
  obtain ⟨_, b, -, -, copy⟩ := (runs t copied.1).2.1 "host" "here" "there" {} (follows _)
  rcases (runs t here.1).2.2.1 ["ls"] true (follows _) with ⟨empty, -⟩ | ⟨c, -, -, alone⟩
  · cases empty
  · exact ⟨length, again 3 (by decide), kept 0 (by decide), ⟨command, banner, a, shell⟩,
      ⟨_, b, copy⟩, ⟨c, alone⟩, (runs t tailed.1).2.2.2.1 "host" _ _ "log" (follows _),
      (runs t left.1).2.2.2.2 "host" _ _ rfl (follows _)⟩

end Testbed.Transport
