import Testbed.Host
import Testbed.Proofs.Transport.Lines
import Testbed.Proofs.Waiting
/-!
# Whether a reboot was asked for

A reboot may break the connection through which it was asked for, so a host that cannot be reached
for the command counts as rebooting. What is missed by that is a host that cannot be reached for its
banner: the command is not run at all then.

Main statement: `reboot_requested_iff`, a reboot that came to its end was asked for unless the host
could not be reached for its banner.
-/
namespace Testbed

open Program Transport

namespace Host

variable {h : Host} {exchanges : List (Exchange Transport.interface)}

def rebooting (h : Host) : List String := h.transport.sshInvocation h.address {} ++ ["reboot"]

def probing (h : Host) : List String := h.transport.sshInvocation h.address {} ++ [probe]

/-- A request that does not ask the host to reboot. -/
def LeavesUp (h : Host) (r : Request) : Prop := r ≠ .run h.rebooting

theorem leavesUp_of_line {line : String} (other : line ≠ "reboot") :
    h.LeavesUp (.run (h.transport.sshInvocation h.address {} ++ [line])) := by
  intro same
  injection same with same
  exact other (List.cons.inj (List.append_cancel_left same)).1

theorem asksOnly_line {line : String} (o : RunOptions)
    (plain : h.transport.sshInvocation h.address o = h.transport.sshInvocation h.address {})
    (other : line ≠ "reboot") :
    (h.transport.runShell h.address line o).run.AsksOnly (I := Transport.interface) h.LeavesUp := by
  refine asksOnly_runShell ?_ ?_ nofun
  · rw [plain]
    exact leavesUp_of_line (by decide)
  · rw [plain]
    exact leavesUp_of_line other

theorem asksOnly_isReachable :
    h.isReachable.AsksOnly (I := Transport.interface) h.LeavesUp := by
  unfold isReachable
  refine asksOnly_bind (asksOnly_line { check := false } rfl (by decide)) fun res => ?_
  rcases res with failure | result
  · exact ⟨nofun, fun _ => trivial⟩
  · trivial

/-- A toolstack command begins with the name of the toolstack. -/
theorem toShell_xe (action : String) (args : List Xe.Argument) (minimal : Bool) :
    ∃ rest, (Xe.command action args minimal).toShell.toList = 'x' :: 'e' :: rest := by
  have name : Shell.quoteChars "xe".toList = ['x', 'e'] := by decide
  rw [Xe.command, Command.toShell, Shell.joinWords, String.toList_ofList, Xe.words,
    List.cons_append, List.map_cons, Shell.joinChars, List.map_cons, name]
  cases (action :: args.map Xe.Argument.word ++ if minimal then ["--minimal"] else []).map
    String.toList |>.map Shell.quoteChars with
  | nil => exact ⟨[], rfl⟩
  | cons word words => exact ⟨_, rfl⟩

theorem line_xe_ne {action : String} {args : List Xe.Argument} {minimal : Bool} :
    (Xe.command action args minimal).toShell ≠ "reboot" := by
  intro same
  obtain ⟨rest, begins⟩ := toShell_xe action args minimal
  rw [same] at begins
  cases begins

theorem asksOnly_xe (action : String) (args : List Xe.Argument) :
    (h.xe action args).run.AsksOnly (I := Transport.interface) h.LeavesUp :=
  asksOnly_adapt (asksOnly_try_map (asksOnly_line {} rfl line_xe_ne))

theorem asksOnly_isEnabled : h.isEnabled.run.AsksOnly (I := Transport.interface) h.LeavesUp := by
  have uuid : h.uuid.run.AsksOnly (I := Transport.interface) h.LeavesUp := by
    unfold uuid xeList
    refine asksOnly_try_bind (asksOnly_try_map
      (asksOnly_adapt (asksOnly_try_map (asksOnly_line {} rfl line_xe_ne)))) fun uuids => ?_
    unfold theOnly
    split <;> trivial
  unfold isEnabled parameter
  exact asksOnly_try_bind (asksOnly_try_bind uuid fun uuid => asksOnly_xe _ _) fun _ => trivial

theorem asksOnly_isReady : h.isReady.AsksOnly (I := Transport.interface) h.LeavesUp := by
  unfold isReady
  refine asksOnly_bind asksOnly_isEnabled fun res => ?_
  rcases res with fault | enabled
  · exact ⟨nofun, fun _ => trivial⟩
  · trivial

theorem asksOnly_await {w : Wait} {condition : Program Transport.interface Bool}
    (tries : condition.AsksOnly h.LeavesUp) :
    (Operation.await w condition).run.AsksOnly (I := Transport.interface) h.LeavesUp :=
  asksOnly_adapt (asksOnly_wait (asksOnly_lift tries) (fun _ => nofun) fun _ => nofun)

/-- The waits that follow the command to reboot do not repeat it. -/
theorem asksOnly_waits :
    (do h.awaitDown; h.awaitReachable h.wait.timeout; h.awaitEnabled h.wait.timeout :
      Operation Unit).run.AsksOnly (I := Transport.interface) h.LeavesUp :=
  asksOnly_try_bind (asksOnly_await asksOnly_isReachable) fun _ =>
    asksOnly_try_bind (asksOnly_await asksOnly_isReachable) fun _ =>
      asksOnly_await asksOnly_isReady

/-- A request to reboot that succeeds has had an answer from ssh. -/
theorem decides_of_requestReboot (run : Runs h.requestReboot.run exchanges (.ok ())) :
    ∃ command banner out,
      Decides h.transport h.address "reboot" {} (ran exchanges) command banner (.ok out) := by
  obtain ⟨t₁, t₂, res, rfl, ssh, ended⟩ := runs_bind.1 run
  obtain ⟨verdict, rfl, line⟩ := runs_try_map.1 ssh
  obtain ⟨command, banner, a, decides, agrees⟩ := decides_of_line line
  have answered : t₂ = [] ∧ ∃ out, a = .ok out := by
    rcases verdict with failure | result
    · obtain ⟨rfl, counts⟩ := runs_pure_iff.1 ended
      match failure with
      | .unreachable address shown code text =>
        obtain ⟨-, -, -, out, -, answered, -⟩ := (agrees.unreachable ..).1 rfl
        exact ⟨rfl, out, answered⟩
      | .failed .. | .notStarted .. => cases counts
    · obtain ⟨rfl, -⟩ := runs_pure_iff.1 ended
      obtain ⟨out, -, answered, -⟩ := (agrees.ok result).1 rfl
      exact ⟨rfl, out, answered⟩
  obtain ⟨rfl, out, rfl⟩ := answered
  rw [List.append_nil]
  exact ⟨command, banner, out, decides⟩

/-- The host could not be reached for its banner. -/
def Unshown (h : Host) (exchanges : List (Exchange Transport.interface)) : Prop :=
  h.transport.settings.stripBanner ∧
    ∃ out rest, ran exchanges = (h.probing, .ok out) :: rest ∧ out.code = 255

theorem rebooting_ne_probing : h.rebooting ≠ h.probing := by
  intro same
  have lines := (List.cons.inj (List.append_cancel_left same)).1
  revert lines
  decide

/-- **Whether a reboot was asked for.** A reboot that came to its end has run the command on the
host, unless banners are to be stripped and the first process, which is run for the banner, failed
to reach the host. -/
theorem reboot_requested_iff (run : Runs h.reboot.run exchanges (.ok ())) :
    (∃ out, (h.rebooting, .ok out) ∈ ran exchanges) ↔ ¬ h.Unshown exchanges := by
  obtain ⟨t₁, t₂, _, rfl, logged, run⟩ := runs_lift_bind.1 run
  rcases runs_try_bind.1 run with ⟨_, failed, -⟩ | ⟨t₃, t₄, _, rfl, requested, waits⟩
  · cases failed
  obtain ⟨command, banner, out, decides⟩ := decides_of_requestReboot requested
  have later : ∀ a, (h.rebooting, a) ∉ ran t₄ := fun a ha =>
    asksOnly_of_runs waits asksOnly_waits _ (mem_ran.1 ha) rfl
  rw [Unshown, ran_append, ran_append, ran_of_log logged, List.nil_append]
  generalize ran t₃ = first at decides
  cases decides with
  | line _ plain =>
    refine iff_of_true ⟨out, List.mem_cons_self ..⟩ fun unshown => ?_
    rw [plain] at unshown
    cases unshown.1
  | @afterProbe shown _ strips reached =>
    refine iff_of_true ⟨out, List.mem_cons_of_mem _ (List.mem_cons_self ..)⟩ fun unshown => ?_
    obtain ⟨-, out', rest, first, missed⟩ := unshown
    cases first
    exact reached missed
  | probe _ strips missed =>
    refine iff_of_false ?_ fun shown => shown ⟨strips, out, _, rfl, missed out rfl⟩
    rintro ⟨out', asked⟩
    rcases List.mem_cons.1 asked with same | asked
    · exact rebooting_ne_probing (Prod.mk.inj same).1
    · exact later _ asked

/-! ## Two reboots -/

def away : (r : Request) → Answer r
  | .run _ => .ok ⟨255, []⟩
  | .start _ _ => .error ⟨"unused"⟩
  | .sleep _ | .log _ => ()

def up : (r : Request) → Answer r
  | .run argv =>
    if argv.getLast? = some probe then .ok ⟨0, []⟩ else .ok ⟨0, "true".toUTF8.data.toList⟩
  | .start _ _ => .error ⟨"unused"⟩
  | .sleep _ | .log _ => ()

/-- What is said in a reboot whose waits are over at once: the host is asked in one state of it, is
away then, and is up at last. -/
def rebootSaid (h : Host) (asked : (r : Request) → Answer r) :
    List (Exchange Transport.interface) :=
  let announced (text : String) : Exchange Transport.interface := ⟨.log ⟨.info, .wait, text⟩, ()⟩
  ⟨.log ⟨.info, .host, s!"Reboot host {h.address}"⟩, ()⟩ ::
    ((h.requestReboot.run.follow asked).1 ++
      (announced s!"Wait for host {h.address} to go down" :: (h.isReachable.follow away).1 ++
        (announced s!"Wait for host {h.address} to be reachable" :: (h.isReachable.follow up).1 ++
          announced s!"Wait for host {h.address} to be enabled" :: (h.isReady.follow up).1)))

theorem runs_await_at_once {w : Wait} {condition : Program Transport.interface Bool} {text : String}
    (announced : w.message = some text) (answer : (r : Request) → Answer r)
    (met : (condition.follow (I := Transport.interface) answer).2 = w.expected) :
    Runs (Operation.await w condition).run
      (⟨.log ⟨.info, .wait, text⟩, ()⟩ :: (condition.follow (I := Transport.interface) answer).1)
      (.ok ()) := by
  have tried := runs_follow (I := Transport.interface) answer condition
  rw [met] at tried
  exact runs_adapt.2 ⟨.ok (), rfl, Wait.runs_awaitFallible_at_once announced
    (runs_lift.2 ⟨_, rfl, tried⟩) (.ask (.done ()))⟩

theorem runs_rebootSaid {asked : (r : Request) → Answer r}
    (requested : (h.requestReboot.run.follow (I := Transport.interface) asked).2 = .ok ())
    (gone : (h.isReachable.follow (I := Transport.interface) away).2 = false)
    (there : (h.isReachable.follow (I := Transport.interface) up).2 = true)
    (ready : (h.isReady.follow (I := Transport.interface) up).2 = true) :
    Runs h.reboot.run (h.rebootSaid asked) (.ok ()) := by
  have asks := runs_follow (I := Transport.interface) asked h.requestReboot.run
  rw [requested] at asks
  have falls : Runs h.awaitDown.run _ (.ok ()) := runs_await_at_once rfl away gone
  have rises : Runs (h.awaitReachable h.wait.timeout).run _ (.ok ()) :=
    runs_await_at_once rfl up there
  have answers : Runs (h.awaitEnabled h.wait.timeout).run _ (.ok ()) :=
    runs_await_at_once rfl up ready
  exact runs_lift_bind.2 ⟨[_], _, (), rfl, .ask (.done ()),
    runs_try_bind.2 (.inr ⟨_, _, (), rfl, asks,
      runs_try_bind.2 (.inr ⟨_, _, (), rfl, falls,
        runs_try_bind.2 (.inr ⟨_, _, (), rfl, rises, answers⟩)⟩)⟩)⟩

def greeter : Host := { address := "host", transport := { settings := { stripBanner := true } } }

/-- A host that drops the connection when it reboots. -/
def dropping : (r : Request) → Answer r
  | .run argv =>
    if argv.getLast? = some "reboot" then .ok ⟨255, "Connection closed".toUTF8.data.toList⟩
    else .ok ⟨0, []⟩
  | .start _ _ => .error ⟨"unused"⟩
  | .sleep _ | .log _ => ()

theorem requested_of_dropping :
    Runs greeter.reboot.run (greeter.rebootSaid dropping) (.ok ()) ∧
    ∃ out, (greeter.rebooting, .ok out) ∈ ran (greeter.rebootSaid dropping) := by
  have run : Runs greeter.reboot.run (greeter.rebootSaid dropping) (.ok ()) :=
    runs_rebootSaid rfl rfl (by decide +kernel) (by decide +kernel)
  refine ⟨run, (reboot_requested_iff run).2 ?_⟩
  rintro ⟨-, out, rest, first, missed⟩
  have shown : (ran (greeter.rebootSaid dropping)).head? = some (greeter.probing, .ok ⟨0, []⟩) :=
    rfl
  rw [first] at shown
  cases shown
  cases missed

/-- A reboot may come to its end although the host was never asked. -/
theorem not_always_requested :
    ¬ ∀ {h : Host} {exchanges : List (Exchange Transport.interface)},
      Runs h.reboot.run exchanges (.ok ()) → ∃ out, (h.rebooting, .ok out) ∈ ran exchanges := by
  intro promised
  have run : Runs greeter.reboot.run (greeter.rebootSaid away) (.ok ()) :=
    runs_rebootSaid rfl rfl (by decide +kernel) (by decide +kernel)
  obtain ⟨out, asked⟩ := promised run
  have unasked : greeter.rebooting ∉ (ran (greeter.rebootSaid away)).map Prod.fst := by
    decide +kernel
  exact unasked (List.mem_map.2 ⟨_, asked, rfl⟩)

end Host

end Testbed
