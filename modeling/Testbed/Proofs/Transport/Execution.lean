import Testbed.Proofs.Waiting
import Testbed.Transport
/-!
# What running commands comes to

However a command is run, one process decides what comes of it: the last that is run. `Agrees` says
what its answer means for the outcome, and `Decides` which process it is for a line that the shell
of a host is given.

Main statement: `said_of_conclude`, the outcome is what the answer of a process means, and the log
has one entry for it.
-/
namespace Testbed.Transport

open Program

/-- The processes that were run, and what came of them. -/
def ran (t : List (Exchange interface)) : List (List String × Except IoError Output) :=
  t.filterMap fun
    | ⟨.run argv, a⟩ => some (argv, a)
    | _ => none

@[simp] theorem ran_append (t₁ t₂ : List (Exchange interface)) :
    ran (t₁ ++ t₂) = ran t₁ ++ ran t₂ := List.filterMap_append

theorem mem_ran {t : List (Exchange interface)} {argv : List String} {a : Except IoError Output} :
    (argv, a) ∈ ran t ↔ ⟨.run argv, a⟩ ∈ t := by
  rw [ran, List.mem_filterMap]
  constructor
  · rintro ⟨⟨r, b⟩, he, hr⟩
    match r, b, hr with
    | .run argv', b, hr =>
      cases hr
      exact he
  · exact fun he => ⟨_, he, rfl⟩

theorem ran_of_log {level : Log.Level} {source : Log.Source} {text : String}
    {t : List (Exchange interface)} {a : Unit} (h : Runs (log level source text) t a) :
    ran t = [] := by
  obtain rfl := (runs_request_iff (I := interface)).1 h
  rfl

theorem runs_run {argv : List String} {command : String} {t : List (Exchange interface)}
    {res : Except Failure Output} :
    Runs (run argv command).run t res ↔
      ∃ a : Except IoError Output, t = [⟨.run argv, a⟩] ∧
        res = a.mapError (.notStarted command) := by
  constructor
  · intro h
    obtain ⟨_, t₂, a, rfl, h₁, h₂⟩ := runs_bind.1 h
    obtain rfl := (runs_request_iff (I := interface)).1 h₁
    rcases a with cause | out <;> obtain ⟨rfl, rfl⟩ := runs_pure_iff.1 h₂
    · exact ⟨_, rfl, rfl⟩
    · exact ⟨_, rfl, rfl⟩
  · rintro ⟨a, rfl, rfl⟩
    refine runs_bind.2 ⟨[_], [], a, rfl, (runs_request_iff (I := interface)).2 rfl, ?_⟩
    rcases a with cause | out
    · exact .done _
    · exact .done _

/-! ## What the log says -/

def logged (exchanges : List (Exchange interface)) : List Log.Entry :=
  exchanges.filterMap fun
    | ⟨.log entry, _⟩ => some entry
    | _ => none

def noted (entry : Log.Entry) : Exchange interface := ⟨.log entry, ()⟩

theorem ran_noted (entries : List Log.Entry) : ran (entries.map noted) = [] := by
  induction entries with
  | nil => rfl
  | cons entry entries ih => exact ih

theorem logged_noted (entries : List Log.Entry) : logged (entries.map noted) = entries := by
  induction entries with
  | nil => rfl
  | cons entry entries ih => exact congrArg (List.cons entry) ih

/-- What the log says about a process that was waited for. -/
def entries (t : Transport) (host : Option String) (command : String) :
    Except IoError Output → List Log.Entry
  | .ok out => [⟨.debug, .transport, resultText t.settings.maxLogLines host command out⟩]
  | .error _ => []

/-! ## The process that decides -/

/-- The bytes of an output without the banner at their front. -/
def Stripped (banner : Option (List UInt8)) (raw bytes : List UInt8) : Prop :=
  match banner with
  | some banner => raw = banner ++ bytes ∨ ¬ banner <+: raw ∧ bytes = raw
  | none => bytes = raw

theorem stripped_iff {banner : Option (List UInt8)} {out : Output} {bytes : List UInt8} :
    Stripped banner out.bytes bytes ↔ bytes = (withoutBanner banner out).bytes := by
  rcases banner with _ | banner
  · rfl
  by_cases front : banner <+: out.bytes
  · obtain ⟨rest, hrest⟩ := front
    have taken : (withoutBanner (some banner) out).bytes = rest := by simp [withoutBanner, ← hrest]
    rw [taken, Stripped, ← hrest]
    constructor
    · rintro (h | ⟨absent, -⟩)
      · exact (List.append_cancel_left h).symm
      · exact absurd ⟨rest, rfl⟩ absent
    · rintro rfl
      exact .inl rfl
  · have other : ∀ bytes, out.bytes ≠ banner ++ bytes := fun bytes h => front ⟨bytes, h.symm⟩
    simp [Stripped, withoutBanner, front, other]

@[simp] theorem code_withoutBanner (banner : Option (List UInt8)) (out : Output) :
    (withoutBanner banner out).code = out.code := by
  unfold withoutBanner
  split
  · split <;> rfl
  · rfl

/-- What comes of a command, by the answer to the process that decides. The output is given as text,
whole and trimmed, in a failure, and as it is in a result. -/
structure Agrees (host : Option String) (check : Bool) (command : String)
    (banner : Option (List UInt8)) (a : Except IoError Output) (res : Except Failure Result) :
    Prop where
  notStarted : ∀ shown cause,
    res = .error (.notStarted shown cause) ↔ shown = command ∧ a = .error cause
  unreachable : ∀ address shown code text,
    res = .error (.unreachable address shown code text) ↔
      host = some address ∧ shown = command ∧ code = 255 ∧
      ∃ out bytes, a = .ok out ∧ out.code = 255 ∧ Stripped banner out.bytes bytes ∧
        text = Text.trim (Text.decode bytes)
  failed : ∀ place shown code text,
    res = .error (.failed place shown code text) ↔
      place = host ∧ shown = command ∧ check ∧ code ≠ 0 ∧ (host.isSome → code ≠ 255) ∧
      ∃ out bytes, a = .ok out ∧ out.code = code ∧ Stripped banner out.bytes bytes ∧
        text = Text.trim (Text.decode bytes)
  ok : ∀ result,
    res = .ok result ↔
      ∃ out bytes, a = .ok out ∧ (host.isSome → out.code ≠ 255) ∧ (check → out.code = 0) ∧
        Stripped banner out.bytes bytes ∧ result = ⟨host, out.code, bytes⟩

theorem agrees_notStarted (host : Option String) (check : Bool) (command : String)
    (banner : Option (List UInt8)) (cause : IoError) :
    Agrees host check command banner (.error cause) (.error (.notStarted command cause)) := by
  refine ⟨fun shown cause' => ⟨?_, ?_⟩, fun _ _ _ _ => ⟨nofun, ?_⟩, fun _ _ _ _ => ⟨nofun, ?_⟩,
    fun _ => ⟨nofun, ?_⟩⟩
  · rintro h
    cases h
    exact ⟨rfl, rfl⟩
  · rintro ⟨rfl, h⟩
    cases h
    rfl
  · rintro ⟨-, -, -, out, bytes, h, -⟩
    cases h
  · rintro ⟨-, -, -, -, -, out, bytes, h, -⟩
    cases h
  · rintro ⟨out, bytes, h, -⟩
    cases h

theorem agrees_classify (host : Option String) (check : Bool) (command : String)
    (banner : Option (List UInt8)) (out : Output) :
    Agrees host check command banner (.ok out)
      (classify host command (withoutBanner banner out) check) := by
  rcases host with _ | address <;>
    simp only [classify, code_withoutBanner, failureText, Ssh.connectionFailed]
  · by_cases failed : check ∧ out.code ≠ 0
    · rw [if_pos failed]
      constructor <;> simp [stripped_iff] <;> grind
    · rw [if_neg failed]
      constructor <;> simp [stripped_iff] <;> grind
  by_cases unreachable : out.code = 255
  · rw [if_pos unreachable]
    constructor <;> simp [stripped_iff] <;> grind
  rw [if_neg unreachable]
  by_cases failed : check ∧ out.code ≠ 0
  · rw [if_pos failed]
    constructor <;> simp [stripped_iff] <;> grind
  · rw [if_neg failed]
    constructor <;> simp [stripped_iff] <;> grind

/-- Runs a program, logs what came of it and classifies it. -/
def conclude (t : Transport) (host : Option String) (argv : List String) (command : String)
    (banner : Option (List UInt8)) (check : Bool) : Action Result := do
  let out := withoutBanner banner (← run argv command)
  t.logResult host command out
  classify host command out check

theorem said_of_conclude {t : Transport} {host : Option String} {argv : List String}
    {command : String} (banner : Option (List UInt8)) {check : Bool}
    {exchanges : List (Exchange interface)} {res : Except Failure Result}
    (h : Runs (t.conclude host argv command banner check).run exchanges res) :
    ∃ a, exchanges = ⟨.run argv, a⟩ ::
        (t.entries host command (a.map (withoutBanner banner))).map noted ∧
      Agrees host check command banner a res := by
  rcases runs_try_bind.1 h with ⟨failure, rfl, h₁⟩ | ⟨t₁, t₂, out, rfl, h₁, h₂⟩
  · obtain ⟨a, rfl, ha⟩ := runs_run.1 h₁
    rcases a with cause | out <;> cases ha
    exact ⟨_, rfl, agrees_notStarted host check command banner cause⟩
  · obtain ⟨a, rfl, ha⟩ := runs_run.1 h₁
    rcases a with cause | out' <;> cases ha
    obtain ⟨t₃, t₄, _, rfl, h₃, h₄⟩ := runs_lift_bind.1 h₂
    have classified : t₄ = [] ∧ res = classify host command (withoutBanner banner out) check :=
      runs_done_iff.1 h₄
    obtain ⟨rfl, rfl⟩ := classified
    obtain rfl := (runs_request_iff (I := interface)).1 h₃
    exact ⟨_, rfl, agrees_classify host check command banner out⟩

theorem agrees_of_conclude {t : Transport} {host : Option String} {argv : List String}
    {command : String} (banner : Option (List UInt8)) {check : Bool}
    {exchanges : List (Exchange interface)} {res : Except Failure Result}
    (h : Runs (t.conclude host argv command banner check).run exchanges res) :
    ∃ a, ran exchanges = [(argv, a)] ∧ Agrees host check command banner a res := by
  obtain ⟨a, rfl, agrees⟩ := said_of_conclude banner h
  exact ⟨a, congrArg (List.cons (argv, a)) (ran_noted _), agrees⟩

/-! ## Lines for the shell of a host -/

/-- The processes that are run for a line, and the one that decides: the command that it shows, the
banner that is taken off its output, and its answer. -/
inductive Decides (t : Transport) (host line : String) (o : RunOptions) :
    List (List String × Except IoError Output) → String → Option (List UInt8) →
      Except IoError Output → Prop
  /-- The line is all that is run. -/
  | line (a : Except IoError Output) :
      t.settings.stripBanner = false →
      Decides t host line o [(t.sshInvocation host o ++ [line], a)] line none a
  /-- The host has shown its banner, whatever its code was. -/
  | afterProbe {shown : Output} (a : Except IoError Output) :
      t.settings.stripBanner → shown.code ≠ 255 →
      Decides t host line o
        [(t.sshInvocation host o ++ [probe], .ok shown), (t.sshInvocation host o ++ [line], a)]
        line (some shown.bytes) a
  /-- The host has not shown its banner, and the line is not run. -/
  | probe (a : Except IoError Output) :
      t.settings.stripBanner → (∀ shown, a = .ok shown → shown.code = 255) →
      Decides t host line o [(t.sshInvocation host o ++ [probe], a)] probe none a

/-- What a line for the shell of a host makes necessary. -/
theorem asksOnly_runShell {kind : Request → Prop} {t : Transport} {host line : String}
    {o : RunOptions} (probes : kind (.run (t.sshInvocation host o ++ [probe])))
    (runs : kind (.run (t.sshInvocation host o ++ [line]))) (logs : ∀ entry, kind (.log entry)) :
    (t.runShell host line o).run.AsksOnly (I := interface) kind := by
  have asks {argv : List String} {command : String} (h : kind (.run argv)) :
      (run argv command).run.AsksOnly (I := interface) kind := by
    refine ⟨h, fun a => ?_⟩
    rcases a with cause | out <;> trivial
  unfold runShell
  refine asksOnly_try_bind ?_ fun banner => asksOnly_try_bind (asks runs) fun out => ?_
  · unfold findBanner
    split
    · refine asksOnly_try_bind (asks probes) fun out => ?_
      dsimp only
      split <;> trivial
    · trivial
  · exact asksOnly_try_bind (asksOnly_lift ⟨logs _, fun _ => trivial⟩) fun _ => trivial

/-- What a wait makes necessary. -/
theorem asksOnly_wait {ε : Type} {kind : Request → Prop} {w : Wait} {onTimeout : Wait.Timeout → ε}
    {condition : ExceptT ε (Program interface) Bool}
    (tries : condition.run.AsksOnly (I := interface) kind) (sleeps : ∀ d, kind (.sleep d))
    (logs : ∀ entry, kind (.log entry)) :
    (w.awaitFallible onTimeout condition).run.AsksOnly (I := interface) kind :=
  Wait.asksOnly_awaitFallible tries (fun d => ⟨sleeps d, fun _ => trivial⟩)
    fun entry => ⟨logs entry, fun _ => trivial⟩

end Testbed.Transport
