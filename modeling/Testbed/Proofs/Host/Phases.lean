import Testbed.Proofs.Host.Queries
import Testbed.Proofs.Host.Reboot
/-!
# The phases of a reboot

A reboot asks the host once and then waits three times: until it is away, until it answers again,
and until its toolstack reports it enabled. Each wait is a phase of its own. What goes wrong within
a phase only makes for another round, and a phase that runs out of rounds ends the reboot.

The host is one whose banner stays, so that each line is one process. Main statement:
`reboot_phases`, the reboots of such a host are those that `Rebooted` lists.
-/
namespace Testbed.Host

open Program Transport

/-! ## Rounds -/

/-- The text that a command has printed if it ended well. -/
def printed? : Except IoError Output → Option String
  | .ok out => if out.code = 0 then some (Text.trim (Text.decode out.bytes)) else none
  | .error _ => none

/-- The uuid that was listed, if it was the only one. -/
def listed? (a : Except IoError Output) : Option String :=
  ((printed? a).map Xe.listing).bind theOnly?

def listing (h : Host) : List String :=
  h.process (Xe.command "host-list" [("address", h.address)] true).toShell

def reading (h : Host) (uuid name : String) : List String :=
  h.process (Xe.command "host-param-get" [("uuid", uuid), ("param-name", name)] false).toShell

/-- A round in which it is found out whether the host answers. -/
inductive Probed (h : Host) : List Executed → Bool → Prop
  | intro (a : Except IoError Output) : Probed h [(h.probing, a)] (answered a)

/-- A round in which it is found out whether the host is enabled. It is over if it does not have one
uuid. -/
inductive Checked (h : Host) : List Executed → Bool → Prop
  | unlisted (a : Except IoError Output) :
      listed? a = none → Checked h [(h.listing, a)] false
  | listed (a b : Except IoError Output) (uuid : String) :
      listed? a = some uuid →
      Checked h [(h.listing, a), (h.reading uuid "enabled", b)] (printed? b = some "true")

/-! ## Reboots -/

/-- Why a host does not reboot, by what became of the command. That the connection broke is no
reason. -/
def refusal? (h : Host) : Except IoError Output → Option Failure
  | .ok out =>
    if out.code = 0 ∨ out.code = 255 then none
    else some (.failed (some h.address) "reboot" out.code (Text.trim (Text.decode out.bytes)))
  | .error cause => some (.notStarted "reboot" cause)

def rounds (h : Host) : ℕ :=
  max 1 (h.wait.timeout.nanos ⌈/⌉ max h.wait.retryDelay.nanos 1000000)

/-- The phase that ends once the host does not answer. -/
abbrev Down (h : Host) : List Executed → Bool → Prop := Phase h.Probed false h.rounds

/-- The phase that ends once the host answers. -/
abbrev Back (h : Host) : List Executed → Bool → Prop := Phase h.Probed true h.rounds

/-- The phase that ends once the host is enabled. -/
abbrev Enabled (h : Host) : List Executed → Bool → Prop := Phase h.Checked true h.rounds

def late (h : Host) (what : String) (expected : Bool) : Fault :=
  .timeout ⟨some what, expected, h.wait.timeout⟩

/-- The processes that are run for a reboot, and its result. -/
inductive Rebooted (h : Host) : List Executed → Except Fault Unit → Prop
  | refused (a : Except IoError Output) (failure : Failure) :
      h.refusal? a = some failure →
      Rebooted h [(h.rebooting, a)] (.error (.command failure))
  | stayedUp (a : Except IoError Output) {down : List Executed} :
      h.refusal? a = none → h.Down down false →
      Rebooted h ((h.rebooting, a) :: down)
        (.error (h.late s!"Wait for host {h.address} to go down" false))
  | stayedAway (a : Except IoError Output) {down back : List Executed} :
      h.refusal? a = none → h.Down down true → h.Back back false →
      Rebooted h ((h.rebooting, a) :: (down ++ back))
        (.error (h.late s!"Wait for host {h.address} to be reachable" true))
  | stayedDisabled (a : Except IoError Output) {down back enabled : List Executed} :
      h.refusal? a = none → h.Down down true → h.Back back true → h.Enabled enabled false →
      Rebooted h ((h.rebooting, a) :: (down ++ (back ++ enabled)))
        (.error (h.late s!"Wait for host {h.address} to be enabled" true))
  | done (a : Except IoError Output) {down back enabled : List Executed} :
      h.refusal? a = none → h.Down down true → h.Back back true → h.Enabled enabled true →
      Rebooted h ((h.rebooting, a) :: (down ++ (back ++ enabled))) (.ok ())

/-! ## What a host whose banner stays is asked -/

variable {h : Host} {r : List Executed}

section Plain

variable (plain : h.transport.settings.stripBanner = false)
include plain

theorem reached_iff_probed {value : Bool} : h.Reached r value ↔ h.Probed r value := by
  constructor
  · rintro ⟨shown, banner, a, decides, rfl⟩
    obtain ⟨rfl, -, -⟩ := (decides_plain_iff plain).1 decides
    exact .intro a
  · rintro ⟨a⟩
    exact ⟨_, _, a, (decides_plain_iff plain).2 ⟨rfl, rfl, rfl⟩, rfl⟩

/-- A command has a text if it ended well. -/
theorem exists_yields_iff {command : Command} {text : Option String} :
    (∃ res, h.Yields command r res ∧ res.toOption = text) ↔
      ∃ a, r = [(h.process command.toShell, a)] ∧ text = printed? a := by
  have read (a : Except IoError Output) :
      (((outcome h.address command.toShell true a).map Result.trimmed).mapError
        Fault.command).toOption = printed? a := by
    rcases a with cause | out
    · rfl
    by_cases ended : out.code = 0
    · simp [outcome, classify, printed?, Ssh.connectionFailed, ended, Except.toOption, Except.map,
        Except.mapError, Result.trimmed, Result.text]
    · by_cases unreachable : out.code = 255 <;>
        simp [outcome, classify, printed?, Ssh.connectionFailed, ended, unreachable,
          Except.toOption, Except.map, Except.mapError]
  constructor
  · rintro ⟨_, yields, rfl⟩
    obtain ⟨a, rfl, rfl⟩ := (yields_plain_iff plain).1 yields
    exact ⟨a, rfl, read a⟩
  · rintro ⟨a, rfl, rfl⟩
    exact ⟨_, (yields_plain_iff plain).2 ⟨a, rfl, rfl⟩, read a⟩

theorem ready_iff_checked {value : Bool} : h.Ready r value ↔ h.Checked r value := by
  constructor
  · rintro (⟨yields, missing⟩ | ⟨yields, one, reads⟩)
    · obtain ⟨a, rfl, text⟩ := (exists_yields_iff plain).1 ⟨_, yields, rfl⟩
      rw [text] at missing
      exact .unlisted a missing
    · obtain ⟨a, rfl, text⟩ := (exists_yields_iff plain).1 ⟨_, yields, rfl⟩
      obtain ⟨b, rfl, read⟩ := (exists_yields_iff plain).1 ⟨_, reads, rfl⟩
      rw [text] at one
      rw [read]
      exact .listed a b _ one
  · rintro (⟨a, missing⟩ | ⟨a, b, uuid, one⟩)
    · obtain ⟨res, yields, text⟩ := (exists_yields_iff plain).2 ⟨a, rfl, rfl⟩
      exact .unlisted yields (by rw [text]; exact missing)
    · obtain ⟨res, yields, text⟩ := (exists_yields_iff plain).2 ⟨a, rfl, rfl⟩
      obtain ⟨value, reads, read⟩ := (exists_yields_iff plain).2 ⟨b, rfl, rfl⟩
      rw [← read]
      exact .listed yields (by rw [text]; exact one) reads

omit plain in
def judged (res : Except Failure String) : Except Fault Unit :=
  match res with
  | .ok _ => .ok ()
  | .error failure => if failure.isUnreachable then .ok () else .error (.command failure)

theorem executes_requestReboot {res : Except Fault Unit} :
    Executes h.requestReboot.run r res ↔ ∃ a, r = [(h.rebooting, a)] ∧
      res = match h.refusal? a with
        | some failure => .error (.command failure)
        | none => .ok () := by
  have verdict : h.requestReboot.run =
      (h.transport.ssh h.address (.line "reboot")).run >>= fun res => .done (judged res) := by
    refine congrArg (_ >>= ·) (funext fun res => ?_)
    rcases res with failure | text <;> rfl
  have refused (a : Except IoError Output) :
      judged ((outcome h.address "reboot" true a).map Result.trimmed) = match h.refusal? a with
        | some failure => .error (.command failure)
        | none => .ok () := by
    rcases a with cause | out
    · rfl
    by_cases ended : out.code = 0
    · simp [judged, outcome, classify, refusal?, Ssh.connectionFailed, ended, Except.map]
    · by_cases unreachable : out.code = 255 <;>
        simp [judged, outcome, classify, refusal?, Ssh.connectionFailed, ended, unreachable,
          Except.map, Failure.isUnreachable, failureText]
  rw [verdict, executes_then_done]
  constructor
  · rintro ⟨_, rfl, run⟩
    obtain ⟨_, rfl, line⟩ := executes_try_map.1 run
    obtain ⟨a, rfl, rfl⟩ := (executes_plain_line plain).1 line
    exact ⟨a, rfl, refused a⟩
  · rintro ⟨a, rfl, rfl⟩
    exact ⟨_, (refused a).symm, executes_try_map.2
      ⟨_, rfl, (executes_plain_line plain).2 ⟨a, rfl, rfl⟩⟩⟩

theorem executes_requested :
    Executes h.requestReboot.run r (.ok ()) ↔
      ∃ a, r = [(h.rebooting, a)] ∧ h.refusal? a = none := by
  rw [executes_requestReboot plain]
  refine exists_congr fun a => and_congr_right fun _ => ?_
  cases h.refusal? a <;> simp

theorem executes_refused {fault : Fault} :
    Executes h.requestReboot.run r (.error fault) ↔
      ∃ a, r = [(h.rebooting, a)] ∧ ∃ failure, h.refusal? a = some failure ∧
        fault = .command failure := by
  rw [executes_requestReboot plain]
  refine exists_congr fun a => and_congr_right fun _ => ?_
  cases h.refusal? a <;> simp

/-! ## The whole -/

theorem executes_down {res : Except Fault Unit} :
    Executes h.awaitDown.run r res ↔
      ∃ met, h.Down r met ∧ res = if met then .ok ()
        else .error (h.late s!"Wait for host {h.address} to go down" false) := by
  have round : Executes h.isReachable = h.Probed := funext₂ fun r value =>
    propext (executes_isReachable.trans (reached_iff_probed plain))
  rw [awaitDown, executes_await, round]
  rfl

theorem executes_back {res : Except Fault Unit} :
    Executes (h.awaitReachable h.wait.timeout).run r res ↔
      ∃ met, h.Back r met ∧ res = if met then .ok ()
        else .error (h.late s!"Wait for host {h.address} to be reachable" true) := by
  have round : h.Reached = h.Probed :=
    funext₂ fun r value => propext (reached_iff_probed plain)
  rw [executes_awaitReachable, round]
  rfl

theorem executes_enabled {res : Except Fault Unit} :
    Executes (h.awaitEnabled h.wait.timeout).run r res ↔
      ∃ met, h.Enabled r met ∧ res = if met then .ok ()
        else .error (h.late s!"Wait for host {h.address} to be enabled" true) := by
  have round : h.Ready = h.Checked := funext₂ fun r value => propext (ready_iff_checked plain)
  rw [executes_awaitEnabled, round]
  rfl

omit plain in
/-- A phase and what follows it. -/
theorem executes_phase_bind {phase : List Executed → Bool → Prop} {fault : Fault}
    {x rest : Operation Unit} {res : Except Fault Unit}
    (lasts : ∀ {r : List Executed} {res : Except Fault Unit}, Executes x.run r res ↔
      ∃ met, phase r met ∧ res = if met then .ok () else .error fault) :
    Executes (x >>= fun _ => rest).run r res ↔ (phase r false ∧ res = .error fault) ∨
      ∃ r₁ r₂, r = r₁ ++ r₂ ∧ phase r₁ true ∧ Executes rest.run r₂ res := by
  rw [executes_try_bind]
  constructor
  · rintro (⟨e, rfl, failed⟩ | ⟨r₁, r₂, _, rfl, ended, later⟩)
    · obtain ⟨met, inPhase, same⟩ := lasts.1 failed
      cases met <;> cases same
      exact .inl ⟨inPhase, rfl⟩
    · obtain ⟨met, inPhase, same⟩ := lasts.1 ended
      cases met <;> cases same
      exact .inr ⟨r₁, r₂, rfl, inPhase, later⟩
  · rintro (⟨spent, rfl⟩ | ⟨r₁, r₂, rfl, met, later⟩)
    · exact .inl ⟨fault, rfl, lasts.2 ⟨false, spent, rfl⟩⟩
    · exact .inr ⟨r₁, r₂, (), rfl, lasts.2 ⟨true, met, rfl⟩, later⟩

theorem executes_reboot {res : Except Fault Unit} :
    Executes h.reboot.run r res ↔ h.Rebooted r res := by
  have parts : Executes h.reboot.run r res ↔
      Executes (h.requestReboot >>= fun _ => h.awaitDown >>= fun _ =>
        h.awaitReachable h.wait.timeout >>= fun _ => h.awaitEnabled h.wait.timeout).run r res :=
    executes_try_log_bind
  rw [parts, executes_try_bind]
  constructor
  · rintro (⟨fault, rfl, asked⟩ | ⟨_, rest, _, rfl, asked, waited⟩)
    · obtain ⟨a, rfl, failure, refusal, rfl⟩ := (executes_refused plain).1 asked
      exact .refused a failure refusal
    obtain ⟨a, rfl, willing⟩ := (executes_requested plain).1 asked
    rw [List.singleton_append]
    rcases (executes_phase_bind (executes_down plain)).1 waited with
      ⟨up, rfl⟩ | ⟨down, rest, rfl, isDown, waited⟩
    · exact .stayedUp a willing up
    rcases (executes_phase_bind (executes_back plain)).1 waited with
      ⟨away, rfl⟩ | ⟨back, enabled, rfl, isBack, waited⟩
    · exact .stayedAway a willing isDown away
    obtain ⟨met, last, rfl⟩ := (executes_enabled plain).1 waited
    cases met with
    | false => exact .stayedDisabled a willing isDown isBack last
    | true => exact .done a willing isDown isBack last
  · intro rebooted
    have asked {a : Except IoError Output} (willing : h.refusal? a = none) :
        Executes h.requestReboot.run [(h.rebooting, a)] (.ok ()) :=
      (executes_requested plain).2 ⟨a, rfl, willing⟩
    have through {down back enabled : List Executed} {res : Except Fault Unit}
        (isDown : h.Down down true) (isBack : h.Back back true)
        (last : ∃ met, h.Enabled enabled met ∧ res = if met then .ok ()
          else .error (h.late s!"Wait for host {h.address} to be enabled" true)) :
        Executes (h.awaitDown >>= fun _ => h.awaitReachable h.wait.timeout >>= fun _ =>
          h.awaitEnabled h.wait.timeout).run (down ++ (back ++ enabled)) res :=
      (executes_phase_bind (executes_down plain)).2 (.inr ⟨_, _, rfl, isDown,
        (executes_phase_bind (executes_back plain)).2 (.inr ⟨_, _, rfl, isBack,
          (executes_enabled plain).2 last⟩)⟩)
    cases rebooted with
    | refused a failure refusal =>
      exact .inl ⟨_, rfl, (executes_refused plain).2 ⟨a, rfl, failure, refusal, rfl⟩⟩
    | stayedUp a willing up =>
      exact .inr ⟨[_], _, (), rfl, asked willing,
        (executes_phase_bind (executes_down plain)).2 (.inl ⟨up, rfl⟩)⟩
    | stayedAway a willing isDown away =>
      exact .inr ⟨[_], _, (), rfl, asked willing,
        (executes_phase_bind (executes_down plain)).2 (.inr ⟨_, _, rfl, isDown,
          (executes_phase_bind (executes_back plain)).2 (.inl ⟨away, rfl⟩)⟩)⟩
    | stayedDisabled a willing isDown isBack last =>
      exact .inr ⟨[_], _, (), rfl, asked willing, through isDown isBack ⟨false, last, rfl⟩⟩
    | done a willing isDown isBack last =>
      exact .inr ⟨[_], _, (), rfl, asked willing, through isDown isBack ⟨true, last, rfl⟩⟩

end Plain

theorem waited_reboot : h.reboot.run.AsksOnly (I := Transport.interface) Waited := by
  refine asksOnly_try_bind (asksOnly_lift ⟨nofun, fun _ => trivial⟩) fun _ => ?_
  refine asksOnly_try_bind (asksOnly_bind (asksOnly_try_map waited_runShell) fun res => ?_) fun _ =>
    asksOnly_try_bind (waited_await waited_isReachable) fun _ =>
      asksOnly_try_bind (waited_await waited_isReachable) fun _ => waited_await waited_isReady
  cases res <;> trivial

/-- **The phases of a reboot.** Any answers make one reboot of a host whose banner stays, and with
the processes that are run for it and its result it is one of those listed: the host refuses, or
one of three phases runs out of rounds, or all three are gone through. -/
theorem reboot_phases (plain : h.transport.settings.stripBanner = false) :
    (∀ script : ℕ → Except IoError Output,
      ∃! run : List (Exchange Transport.interface) × Except Fault Unit,
        Runs h.reboot.run run.1 run.2 ∧ Scripted script run.1) ∧
    ∀ (r : List Executed) (res : Except Fault Unit),
      (∃ t, Runs h.reboot.run t res ∧ ran t = r) ↔ h.Rebooted r res :=
  ⟨fun script => existsUnique_scripted script waited_reboot, fun _ _ => executes_reboot plain⟩

/-- A host that is given no time to go down. -/
theorem phases_of_hurried_reboot :
    let h : Host := { address := "host", transport := {}, wait := { timeout := ⟨0⟩ } }
    ∃ t, Runs h.reboot.run t (.error (h.late "Wait for host host to go down" false)) ∧
      ran t = [(h.rebooting, .ok ⟨0, []⟩), (h.probing, .ok ⟨0, []⟩)] := by
  intro h
  have up : h.Down [(h.probing, .ok ⟨0, []⟩)] false :=
    .spent [[(h.probing, .ok ⟨0, []⟩)]] (by simpa using .intro (.ok ⟨0, []⟩)) (by decide)
  exact ((reboot_phases rfl).2 _ _).2 (.stayedUp (.ok ⟨0, []⟩) rfl up)

end Testbed.Host
