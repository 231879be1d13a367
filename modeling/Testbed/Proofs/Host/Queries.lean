import Testbed.Proofs.Host.Toolstack
/-!
# What a host is asked, and what is found

A command on a host yields its trimmed text or a fault, whether or not the host is asked for its
banner first (`Yields`). From that it follows what is run, and what is found, when a host is asked
whether it answers (`Reached`) and whether it is enabled (`Ready`): that needs its uuid, which must
be the only one listed, and then the parameter.

Main statements: `executes_ssh`, `executes_awaitReachable` and `executes_awaitEnabled`.
-/
namespace Testbed

namespace Transport

/-- An answer means one outcome. -/
theorem Agrees.unique {host : Option String} {check : Bool} {command : String}
    {banner : Option (List UInt8)} {a : Except IoError Output} {res other : Except Failure Result}
    (agrees : Agrees host check command banner a res)
    (agrees' : Agrees host check command banner a other) : res = other := by
  rcases res with (_ | _ | _) | result
  · exact ((agrees'.unreachable ..).2 ((agrees.unreachable ..).1 rfl)).symm
  · exact ((agrees'.failed ..).2 ((agrees.failed ..).1 rfl)).symm
  · exact ((agrees'.notStarted ..).2 ((agrees.notStarted ..).1 rfl)).symm
  · exact ((agrees'.ok _).2 ((agrees.ok _).1 rfl)).symm

end Transport

namespace Host

open Program Transport

variable {h : Host} {r : List Executed}

/-! ## Commands -/

/-- The processes that are run for a command whose code is checked, and its trimmed text or what
went wrong. -/
def Yields (h : Host) (command : Command) (r : List Executed) (res : Except Fault String) : Prop :=
  ∃ shown banner a verdict,
    Decides h.transport h.address command.toShell {} r shown banner a ∧
    Agrees (some h.address) true shown banner a verdict ∧
    res = (verdict.map Result.trimmed).mapError Fault.command

theorem executes_shell {o : RunOptions} {line : String} {res : Except Failure Result} :
    Executes (h.transport.runShell h.address line o).run r res ↔
      ∃ shown banner a, Decides h.transport h.address line o r shown banner a ∧
        Agrees (some h.address) o.check shown banner a res := by
  rw [executes_line]
  constructor
  · rintro ⟨shown, banner, a, decides, rfl⟩
    exact ⟨shown, banner, a, decides, agrees_outcome ..⟩
  · rintro ⟨shown, banner, a, decides, agrees⟩
    exact ⟨shown, banner, a, decides, agrees.unique (agrees_outcome ..)⟩

theorem executes_ssh {command : Command} {res : Except Fault String} :
    Executes (h.ssh command).run r res ↔ h.Yields command r res := by
  have lifted : Executes (h.ssh command).run r res ↔ ∃ text, res = text.mapError Fault.command ∧
      Executes (h.transport.ssh h.address command).run r text := executes_adapt
  rw [lifted]
  constructor
  · rintro ⟨_, rfl, run⟩
    obtain ⟨verdict, rfl, line⟩ := executes_try_map.1 run
    obtain ⟨shown, banner, a, decides, agrees⟩ := executes_shell.1 line
    exact ⟨shown, banner, a, verdict, decides, agrees, rfl⟩
  · rintro ⟨shown, banner, a, verdict, decides, agrees, rfl⟩
    exact ⟨_, rfl, executes_try_map.2
      ⟨verdict, rfl, executes_shell.2 ⟨shown, banner, a, decides, agrees⟩⟩⟩

/-- On a host whose banner stays, a command is one process. -/
theorem yields_plain_iff (plain : h.transport.settings.stripBanner = false) {command : Command}
    {res : Except Fault String} :
    h.Yields command r res ↔ ∃ a, r = [(h.process command.toShell, a)] ∧
      res = ((outcome h.address command.toShell true a).map Result.trimmed).mapError
        Fault.command := by
  have line {verdict : Except Failure Result} :
      Executes (h.transport.runShell h.address command.toShell {}).run r verdict ↔
        ∃ shown banner a, Decides h.transport h.address command.toShell {} r shown banner a ∧
          Agrees (some h.address) true shown banner a verdict := executes_shell
  constructor
  · rintro ⟨shown, banner, a, verdict, decides, agrees, rfl⟩
    obtain ⟨a, rfl, rfl⟩ :=
      (executes_plain_line plain).1 (line.2 ⟨shown, banner, a, decides, agrees⟩)
    exact ⟨a, rfl, rfl⟩
  · rintro ⟨a, rfl, rfl⟩
    obtain ⟨shown, banner, a, decides, agrees⟩ :=
      line.1 ((executes_plain_line plain).2 ⟨a, rfl, rfl⟩)
    exact ⟨shown, banner, a, _, decides, agrees, rfl⟩

/-- A query of a host has succeeded, and this is what it has printed without the banner. -/
def Printed (h : Host) (query : Command) (r : List Executed) (bytes : List UInt8) : Prop :=
  ∃ shown banner out, Decides h.transport h.address query.toShell {} r shown banner (.ok out) ∧
    out.code = 0 ∧ Stripped banner out.bytes bytes

theorem yields_ok_iff {query : Command} {text : String} :
    h.Yields query r (.ok text) ↔
      ∃ bytes, h.Printed query r bytes ∧ text = Text.trim (Text.decode bytes) := by
  constructor
  · rintro ⟨shown, banner, a, failure | result, decides, agrees, ended⟩
    · cases ended
    · obtain ⟨out, bytes, rfl, -, zero, stripped, rfl⟩ := (agrees.ok result).1 rfl
      cases ended
      exact ⟨bytes, ⟨shown, banner, out, decides, zero rfl, stripped⟩, rfl⟩
  · rintro ⟨bytes, ⟨shown, banner, out, decides, zero, stripped⟩, rfl⟩
    let result : Result := ⟨some h.address, out.code, bytes⟩
    have agrees := agrees_outcome h.address true shown banner (.ok out)
    have ok := (agrees.ok result).2
      ⟨out, bytes, rfl, fun _ => by simp [zero], fun _ => zero, stripped, rfl⟩
    exact ⟨shown, banner, .ok out, .ok result, decides, ok ▸ agrees, rfl⟩

/-! ## What is found -/

def theOnly? : List String → Option String
  | [uuid] => some uuid
  | _ => none

/-- The uuid that a text lists, if it is the only one. -/
def uuidOf? (text : Option String) : Option String := (text.map Xe.listing).bind theOnly?

theorem finds_theOnly {what : String} {uuids : List String} {found : Option String} :
    Finds (theOnly what uuids) r found ↔ r = [] ∧ found = theOnly? uuids := by
  rcases uuids with _ | ⟨uuid, _ | ⟨other, rest⟩⟩
  · exact finds_throw
  · exact finds_pure
  · exact finds_throw

def list (h : Host) : Command := Xe.command "host-list" [("address", h.address)] true

def get (uuid name : String) : Command :=
  Xe.command "host-param-get" [("uuid", uuid), ("param-name", name)] false

theorem finds_ssh {command : Command} {found : Option String} :
    Finds (h.ssh command) r found ↔ ∃ res, h.Yields command r res ∧ res.toOption = found :=
  exists_congr fun _ => and_congr_left' executes_ssh

theorem finds_xeList {action : String} {args : List Xe.Argument} {found : Option (List String)} :
    Finds (h.xeList action args) r found ↔
      ∃ res, h.Yields (Xe.command action args true) r res ∧
        found = res.toOption.map Xe.listing := by
  rw [xeList, finds_map]
  constructor
  · rintro ⟨_, rfl, run⟩
    obtain ⟨res, yields, rfl⟩ := finds_ssh.1 run
    exact ⟨res, yields, rfl⟩
  · rintro ⟨res, yields, rfl⟩
    exact ⟨_, rfl, finds_ssh.2 ⟨res, yields, rfl⟩⟩

theorem finds_uuid {found : Option String} :
    Finds h.uuid r found ↔ ∃ res, h.Yields h.list r res ∧ found = uuidOf? res.toOption := by
  rw [uuid, finds_bind]
  constructor
  · rintro (⟨rfl, unlisted⟩ | ⟨r₁, r₂, uuids, rfl, listed, only⟩)
    · obtain ⟨res, yields, missing⟩ := finds_xeList.1 unlisted
      exact ⟨res, yields, by rw [uuidOf?, ← missing]; rfl⟩
    · obtain ⟨res, yields, some⟩ := finds_xeList.1 listed
      obtain ⟨rfl, rfl⟩ := finds_theOnly.1 only
      rw [List.append_nil]
      exact ⟨res, yields, by rw [uuidOf?, ← some]; rfl⟩
  · rintro ⟨res, yields, rfl⟩
    rcases uuids : res.toOption.map Xe.listing with _ | uuids
    · exact .inl ⟨by rw [uuidOf?, uuids]; rfl, finds_xeList.2 ⟨res, yields, uuids.symm⟩⟩
    · refine .inr ⟨r, [], _, (List.append_nil r).symm, finds_xeList.2 ⟨res, yields, uuids.symm⟩, ?_⟩
      exact finds_theOnly.2 ⟨rfl, by rw [uuidOf?, uuids]; rfl⟩

theorem finds_parameter {name : String} {found : Option String} :
    Finds (h.parameter name) r found ↔
      (∃ res, h.Yields h.list r res ∧ uuidOf? res.toOption = none ∧ found = none) ∨
        ∃ r₁ r₂ res uuid value, r = r₁ ++ r₂ ∧ h.Yields h.list r₁ res ∧
          uuidOf? res.toOption = some uuid ∧ h.Yields (get uuid name) r₂ value ∧
          found = value.toOption := by
  rw [parameter, finds_bind]
  constructor
  · rintro (⟨rfl, unlisted⟩ | ⟨r₁, r₂, uuid, rfl, listed, read⟩)
    · obtain ⟨res, yields, missing⟩ := finds_uuid.1 unlisted
      exact .inl ⟨res, yields, missing.symm, rfl⟩
    · obtain ⟨res, yields, one⟩ := finds_uuid.1 listed
      obtain ⟨value, reads, rfl⟩ := finds_ssh.1 read
      exact .inr ⟨r₁, r₂, res, uuid, value, rfl, yields, one.symm, reads, rfl⟩
  · rintro (⟨res, yields, missing, rfl⟩ | ⟨r₁, r₂, res, uuid, value, rfl, yields, one, reads, rfl⟩)
    · exact .inl ⟨rfl, finds_uuid.2 ⟨res, yields, missing.symm⟩⟩
    · exact .inr ⟨r₁, r₂, uuid, rfl, finds_uuid.2 ⟨res, yields, one.symm⟩,
        finds_ssh.2 ⟨value, reads, rfl⟩⟩

/-! ## Whether a host answers, and whether it is enabled -/

def answered : Except IoError Output → Bool
  | .ok out => out.code ≠ 255
  | .error _ => false

/-- A round in which it is found out whether the host answers. Whatever it answers counts, if it can
be reached. -/
def Reached (h : Host) (r : List Executed) (value : Bool) : Prop :=
  ∃ shown banner a, Decides h.transport h.address probe { check := false } r shown banner a ∧
    value = answered a

/-- A round in which it is found out whether the host is enabled. It is over if the host does not
have one uuid, and what cannot be read is not enabled. -/
inductive Ready (h : Host) : List Executed → Bool → Prop
  | unlisted {r : List Executed} {res : Except Fault String} :
      h.Yields h.list r res → uuidOf? res.toOption = none → Ready h r false
  | listed {r₁ r₂ : List Executed} {res value : Except Fault String} {uuid : String} :
      h.Yields h.list r₁ res → uuidOf? res.toOption = some uuid →
      h.Yields (get uuid "enabled") r₂ value →
      Ready h (r₁ ++ r₂) (value.toOption = some "true")

theorem executes_isReachable {value : Bool} :
    Executes h.isReachable r value ↔ h.Reached r value := by
  have swallowed : Executes h.isReachable r value ↔
      ∃ found, Finds (h.transport.sshResult h.address (.line "true")) r found ∧
        value = (found.map fun _ => true).getD false :=
    executes_or_false (fun _ => rfl) fun _ => ⟨_, _, _, rfl⟩
  have reached {shown : String} {banner : Option (List UInt8)} {a : Except IoError Output}
      {res : Except Failure Result} (agrees : Agrees (some h.address) false shown banner a res) :
      (res.toOption.map fun _ => true).getD false = answered a := by
    rcases a with cause | out
    · obtain rfl := agrees.unique (agrees_notStarted ..)
      rfl
    · obtain rfl := agrees.unique (agrees_classify ..)
      by_cases unreachable : out.code = 255 <;>
        simp [classify, answered, Ssh.connectionFailed, unreachable, Except.toOption]
  rw [swallowed]
  constructor
  · rintro ⟨_, ⟨res, run, rfl⟩, rfl⟩
    obtain ⟨shown, banner, a, decides, agrees⟩ := executes_shell.1 run
    exact ⟨shown, banner, a, decides, reached agrees⟩
  · rintro ⟨shown, banner, a, decides, rfl⟩
    have agrees := agrees_outcome h.address false shown banner a
    exact ⟨_, ⟨_, executes_shell.2 ⟨shown, banner, a, decides, agrees⟩, rfl⟩, (reached agrees).symm⟩

theorem executes_isReady {value : Bool} : Executes h.isReady r value ↔ h.Ready r value := by
  have swallowed : Executes h.isReady r value ↔
      ∃ found, Finds h.isEnabled r found ∧ value = (found.map id).getD false :=
    executes_or_false (fun _ => rfl) fun _ => ⟨_, _, _, rfl⟩
  have enabled {found : Option Bool} : Finds h.isEnabled r found ↔
      ∃ text, found = text.map (fun text => decide (text = "true")) ∧
        Finds (h.parameter "enabled") r text := by
    have mapped : h.isEnabled =
        (fun text => decide (text = "true")) <$> h.parameter "enabled" := bind_pure_comp ..
    rw [mapped, finds_map]
  -- a parameter that could not be read counts as one that is not "true"
  have judged (text : Option String) :
      ((text.map fun text => decide (text = "true")).map id).getD false =
        decide (text = some "true") := by cases text <;> simp
  rw [swallowed]
  constructor
  · rintro ⟨_, found, rfl⟩
    obtain ⟨_, rfl, read⟩ := enabled.1 found
    rcases finds_parameter.1 read with
      ⟨res, yields, missing, rfl⟩ | ⟨r₁, r₂, res, uuid, value, rfl, yields, one, reads, rfl⟩
    · exact .unlisted yields missing
    · rw [judged]
      exact .listed yields one reads
  · rintro (⟨yields, missing⟩ | ⟨yields, one, reads⟩)
    · exact ⟨_, enabled.2 ⟨none, rfl, finds_parameter.2 (.inl ⟨_, yields, missing, rfl⟩)⟩, rfl⟩
    · exact ⟨_, enabled.2 ⟨_, rfl, finds_parameter.2
        (.inr ⟨_, _, _, _, _, rfl, yields, one, reads, rfl⟩)⟩, (judged _).symm⟩

/-! ## Waits on a host -/

def tries (h : Host) (timeout : Duration) : ℕ :=
  max 1 (timeout.nanos ⌈/⌉ max h.wait.retryDelay.nanos 1000000)

variable {timeout : Duration} {res : Except Fault Unit}

theorem executes_awaitReachable :
    Executes (h.awaitReachable timeout).run r res ↔
      ∃ met, Phase h.Reached true (h.tries timeout) r met ∧
        res = if met then .ok () else .error
          (.timeout ⟨some s!"Wait for host {h.address} to be reachable", true, timeout⟩) := by
  have round : Executes h.isReachable = h.Reached :=
    funext₂ fun r value => propext executes_isReachable
  rw [awaitReachable, executes_await, round]
  rfl

theorem executes_awaitEnabled :
    Executes (h.awaitEnabled timeout).run r res ↔
      ∃ met, Phase h.Ready true (h.tries timeout) r met ∧
        res = if met then .ok () else .error
          (.timeout ⟨some s!"Wait for host {h.address} to be enabled", true, timeout⟩) := by
  have round : Executes h.isReady = h.Ready := funext₂ fun r value => propext executes_isReady
  rw [awaitEnabled, executes_await, round]
  rfl

/-! ## Nothing is left running -/

theorem waited_of_serves {request : Request} (serves : h.Serves request) : Waited request := by
  rintro argv log rfl
  exact serves

theorem waited_ssh {command : Command} :
    (h.ssh command).run.AsksOnly (I := Transport.interface) Waited :=
  asksOnly_mono (fun _ => waited_of_serves) (works_ssh command).asks

theorem waited_isReachable : h.isReachable.AsksOnly (I := Transport.interface) Waited := by
  refine asksOnly_bind waited_runShell fun res => ?_
  rcases res with failure | result
  · exact ⟨nofun, fun _ => trivial⟩
  · trivial

theorem waited_isReady : h.isReady.AsksOnly (I := Transport.interface) Waited := by
  have uuid : h.uuid.run.AsksOnly (I := Transport.interface) Waited :=
    asksOnly_mono (fun _ => waited_of_serves) works_uuid.asks
  refine asksOnly_bind
    (asksOnly_try_bind (asksOnly_try_bind uuid fun _ => waited_ssh) fun _ => trivial) fun res => ?_
  rcases res with fault | value
  · exact ⟨nofun, fun _ => trivial⟩
  · trivial

end Host

end Testbed
