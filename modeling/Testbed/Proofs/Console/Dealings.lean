import Testbed.Console.Monitor
import Testbed.Proofs.Runs
/-!
# Dealings with console processes

What looking after consoles comes to for their processes. Most of what is said to the world while
consoles are looked after is about files and the log; a `Dealing` is what is left when that is taken
away. `Attempt` and `Stopping` list the dealings that starting and stopping a recording can have,
and `Reconciled` is the state machine that brings one watch in line with what was learnt about its
subject.

Main statements: `attempt_of_record`, `stopping_of_stopRecording` and `reconciled_of_reconcile`,
each operation has the dealings of its list and no others, whatever the world answers.
-/
namespace Testbed.Console

open Program

variable {ε : Type}

/-- What is done about the process of a console, and what came of it. -/
inductive Dealing
  /-- The log of a console could not be opened, so that there was nothing to launch into. -/
  | unopened (cause : IoError)
  | launch (host : String) (domid : Nat) (log : String) (answer : Except Failure Process)
  | exitCheck (p : Process) (answer : Except IoError Bool)
  | terminate (p : Process) (answer : Except IoError Unit)
  | waitExit (p : Process) (grace : Duration) (answer : Except IoError Bool)
  | kill (p : Process) (answer : Except IoError Unit)

namespace Dealing

def ofProcess : Exchange Process.interface → Option Dealing
  | ⟨.hasExited p, a⟩ => some (.exitCheck p a)
  | ⟨.terminate p, a⟩ => some (.terminate p a)
  | ⟨.kill p, a⟩ => some (.kill p a)
  | ⟨.waitExit p grace, a⟩ => some (.waitExit p grace a)
  | ⟨.log _, _⟩ => none

/-- An exchange as a dealing, if it is one. -/
def of : Exchange (Device.interface ε) → Option Dealing
  | ⟨.makeDirs _, .error e⟩ => some (.unopened e)
  | ⟨.openLog _, .error e⟩ => some (.unopened e)
  | ⟨.launch host domid log, a⟩ => some (.launch host domid log a)
  | ⟨.process r, a⟩ => ofProcess ⟨r, a⟩
  | _ => none

def launched : Dealing → Option Process
  | .launch _ _ _ (.ok p) => some p
  | _ => none

/-- The recording that a dealing began, and the host that it was begun on. -/
def recorded : Dealing → Option (String × Recording)
  | .launch host domid log (.ok p) => some (host, ⟨domid, log, p⟩)
  | _ => none

/-- The process that a dealing begins to stop: stopping begins with asking the process to exit. -/
def stopped : Dealing → Option Process
  | .terminate p _ => some p
  | _ => none

@[simp] theorem launched_exitCheck (p : Process) (a : Except IoError Bool) :
    (exitCheck p a).launched = none := rfl

@[simp] theorem stopped_exitCheck (p : Process) (a : Except IoError Bool) :
    (exitCheck p a).stopped = none := rfl

end Dealing

def dealings (deeds : List (Exchange (Device.interface ε))) : List Dealing :=
  deeds.filterMap Dealing.of

@[simp] theorem dealings_nil : dealings (ε := ε) [] = [] := rfl

@[simp] theorem dealings_append (a b : List (Exchange (Device.interface ε))) :
    dealings (a ++ b) = dealings a ++ dealings b := List.filterMap_append

/-! ## Single requests -/

theorem runs_ask {r : Device.Request ε} {t : List (Exchange (Device.interface ε))}
    {a : Device.Answer ε r} : Runs (Device.ask r) t a ↔ t = [⟨r, a⟩] :=
  runs_request_iff (I := Device.interface ε)

theorem asksOnly_ask {kind : Device.Request ε → Prop} {r : Device.Request ε} (h : kind r) :
    AsksOnly (I := Device.interface ε) kind (Device.ask r) := ⟨h, fun _ => trivial⟩

theorem asksOnly_embed {α : Type} {kind : Device.Request ε → Prop} (h : ∀ r, kind (.process r))
    (p : Program Process.interface α) : AsksOnly (I := Device.interface ε) kind p.embed := by
  induction p with
  | done a => trivial
  | ask r next ih => exact asksOnly_bind (asksOnly_ask (h r)) ih

theorem asksOnly_place {kind : Device.Request ε → Prop} (h : ∀ subject, kind (.hostOf subject))
    (w : Watch ε) : AsksOnly (I := Device.interface ε) kind w.place := by
  unfold Watch.place
  split
  · trivial
  · exact asksOnly_ask (h w.subject)

theorem asksOnly_makeDirs {kind : Device.Request ε → Prop} {path : String}
    (h : kind (.makeDirs path)) :
    AsksOnly (I := Device.interface ε) kind (makeDirs path).run :=
  asksOnly_bind (asksOnly_ask h) fun _ => trivial

theorem asksOnly_hasExited {kind : Device.Request ε → Prop} (h : ∀ r, kind (.process r))
    (r : Recording) : AsksOnly (I := Device.interface ε) kind (hasExited r).run :=
  asksOnly_bind (asksOnly_embed h _) fun _ => trivial

theorem dealings_log {level : Log.Level} {text : String} {t : List (Exchange (Device.interface ε))}
    {a : Unit} (h : Runs (Device.log level text) t a) : dealings t = [] := by
  obtain rfl := runs_ask.1 h
  rfl

/-! ## Starting a recording -/

/-- The dealings of an attempt to record a domain, and the recording that there is after it. -/
inductive Attempt (host : String) (domid : Nat) : List Dealing → Option Recording → Prop
  | unopened (cause : IoError) : Attempt host domid [.unopened cause] none
  | refused (log : String) (failure : Failure) :
      Attempt host domid [.launch host domid log (.error failure)] none
  | attached (log : String) (p : Process) :
      Attempt host domid [.launch host domid log (.ok p)] (some ⟨domid, log, p⟩)

theorem dealings_removeIfEmpty {path : String} {t : List (Exchange (Device.interface ε))} {a : Unit}
    (h : Runs (removeIfEmpty path) t a) : dealings t = [] := by
  unfold removeIfEmpty at h
  obtain ⟨_, t₂, size, rfl, h₁, h₂⟩ := runs_bind.1 h
  obtain rfl := runs_ask.1 h₁
  rw [dealings_append]
  refine List.append_eq_nil_iff.2 ⟨rfl, ?_⟩
  rcases size with e | n
  · exact dealings_log h₂
  by_cases hn : n = 0
  · simp only [hn, ↓reduceIte] at h₂
    obtain ⟨_, t₃, removed, rfl, h₃, h₄⟩ := runs_bind.1 h₂
    obtain rfl := runs_ask.1 h₃
    rw [dealings_append]
    refine List.append_eq_nil_iff.2 ⟨rfl, ?_⟩
    rcases removed with e | _
    · exact dealings_log h₄
    · obtain ⟨rfl, -⟩ := runs_pure_iff.1 h₄
      rfl
  · simp only [hn, ↓reduceIte] at h₂
    obtain ⟨rfl, -⟩ := runs_pure_iff.1 h₂
    rfl

theorem runs_makeDirs {path : String} {t : List (Exchange (Device.interface ε))}
    {res : Except Trouble Unit} (h : Runs (makeDirs path).run t res) :
    (∃ e, res = .error (.io e) ∧ dealings t = [.unopened e]) ∨
      (res = .ok () ∧ dealings t = []) := by
  obtain ⟨e | _, rfl, hask⟩ := runs_mapError.1 h <;> obtain rfl := runs_ask.1 hask
  · exact .inl ⟨e, rfl, rfl⟩
  · exact .inr ⟨rfl, rfl⟩

theorem runs_openLog {path : String} {t : List (Exchange (Device.interface ε))}
    {res : Except Trouble Unit} (h : Runs (openLog path).run t res) :
    (∃ e, res = .error (.io e) ∧ dealings t = [.unopened e]) ∨
      (res = .ok () ∧ dealings t = []) := by
  obtain ⟨e | _, rfl, hask⟩ := runs_mapError.1 h <;> obtain rfl := runs_ask.1 hask
  · exact .inl ⟨e, rfl, rfl⟩
  · exact .inr ⟨rfl, rfl⟩

theorem attempt_of_beginRecording {s : Settings.Console} {uuid host : String} {domid : Nat}
    {t : List (Exchange (Device.interface ε))} {res : Except Trouble Recording}
    (h : Runs (beginRecording s uuid host domid).run t res) :
    Attempt host domid (dealings t) res.toOption := by
  unfold beginRecording at h
  -- the directory
  obtain ⟨e, rfl, h₁⟩ | ⟨t₁, t₂, _, rfl, h₁, h₂⟩ := runs_try_bind.1 h
  · obtain ⟨e, -, ht⟩ | ⟨he, -⟩ := runs_makeDirs h₁
    · rw [ht]; exact .unopened e
    · cases he
  obtain ⟨e, he, -⟩ | ⟨-, ht₁⟩ := runs_makeDirs h₁
  · cases he
  obtain ⟨t₃, t₄, now, rfl, h₃, h₄⟩ := runs_lift_bind.1 h₂
  obtain rfl := runs_ask.1 h₃
  rw [dealings_append, ht₁, List.nil_append, dealings_append]
  change Attempt host domid (dealings t₄) _
  -- the log
  obtain ⟨e, rfl, h₅⟩ | ⟨t₅, t₆, _, rfl, h₅, h₆⟩ := runs_try_bind.1 h₄
  · obtain ⟨e, -, ht⟩ | ⟨he, -⟩ := runs_openLog h₅
    · rw [ht]; exact .unopened e
    · cases he
  obtain ⟨e, he, -⟩ | ⟨-, ht₅⟩ := runs_openLog h₅
  · cases he
  -- the process
  obtain ⟨t₇, t₈, answer, rfl, h₇, h₈⟩ := runs_lift_bind.1 h₆
  obtain rfl := runs_ask.1 h₇
  rw [dealings_append, ht₅, List.nil_append, dealings_append]
  rcases answer with failure | p
  · obtain ⟨t₉, t₁₀, _, rfl, h₉, h₁₀⟩ := runs_lift_bind.1 h₈
    obtain ⟨rfl, rfl⟩ := runs_throw.1 h₁₀
    rw [dealings_append, dealings_removeIfEmpty h₉]
    exact .refused _ failure
  · obtain ⟨rfl, rfl⟩ := runs_try_pure.1 h₈
    exact .attached _ p

theorem attempt_of_tryRecording {s : Settings.Console} {uuid host : String} {domid : Nat}
    {t : List (Exchange (Device.interface ε))} {res : Option Recording}
    (h : Runs (tryRecording s uuid host domid) t res) : Attempt host domid (dealings t) res := by
  unfold tryRecording at h
  obtain ⟨t₁, t₂, begun, rfl, h₁, h₂⟩ := runs_bind.1 h
  have attempt := attempt_of_beginRecording h₁
  rcases begun with e | r <;>
  · obtain ⟨t₃, t₄, _, rfl, h₃, h₄⟩ := runs_bind.1 h₂
    obtain ⟨rfl, rfl⟩ := runs_pure_iff.1 h₄
    simpa [dealings_log h₃, Except.toOption] using attempt

/-- What a watch's host comes to in the deeds: the host that the watch is bound to, or else the one
that its subject was said to be on. -/
def Watch.PlacedOn (w : Watch ε) (deeds : List (Exchange (Device.interface ε))) (host : String) :
    Prop :=
  match w.host with
  | some bound => host = bound
  | none => ⟨.hostOf w.subject, host⟩ ∈ deeds

theorem Watch.PlacedOn.append {w : Watch ε} {deeds : List (Exchange (Device.interface ε))}
    {host : String} (h : w.PlacedOn deeds host) (more : List (Exchange (Device.interface ε))) :
    w.PlacedOn (deeds ++ more) host := by
  unfold Watch.PlacedOn at h ⊢
  split at h
  · exact h
  · exact List.mem_append_left _ h

theorem Watch.PlacedOn.prepend {w : Watch ε} {deeds : List (Exchange (Device.interface ε))}
    {host : String} (h : w.PlacedOn deeds host) (more : List (Exchange (Device.interface ε))) :
    w.PlacedOn (more ++ deeds) host := by
  unfold Watch.PlacedOn at h ⊢
  split at h
  · exact h
  · exact List.mem_append_right _ h

theorem Watch.PlacedOn.bound {w : Watch ε} {deeds : List (Exchange (Device.interface ε))}
    {host bound : String} (h : w.PlacedOn deeds host) (hw : w.host = some bound) :
    host = bound := by
  simpa [Watch.PlacedOn, hw] using h

theorem placedOn_of_place {w : Watch ε} {t : List (Exchange (Device.interface ε))} {host : String}
    (h : Runs w.place t host) : w.PlacedOn t host ∧ dealings t = [] := by
  unfold Watch.place at h
  unfold Watch.PlacedOn
  rcases hw : w.host with _ | bound <;> simp only [hw] at h ⊢
  · obtain rfl := runs_ask.1 h
    exact ⟨List.mem_singleton_self _, rfl⟩
  · obtain ⟨rfl, rfl⟩ := runs_pure_iff.1 h
    exact ⟨rfl, rfl⟩

/-- **Starting to record a watch.** One attempt, on the host of the watch. -/
theorem attempt_of_record {s : Settings.Console} {uuid : String} {w w' : Watch ε} {domid : Nat}
    {t : List (Exchange (Device.interface ε))} (h : Runs (w.record s uuid domid) t w') :
    ∃ host r, w.PlacedOn t host ∧ Attempt host domid (dealings t) r ∧
      w' = { w with recording := r } := by
  unfold Watch.record at h
  obtain ⟨t₁, t₂, host, rfl, h₁, h₂⟩ := runs_bind.1 h
  obtain ⟨t₃, t₄, r, rfl, h₃, h₄⟩ := runs_bind.1 h₂
  obtain ⟨rfl, rfl⟩ := runs_pure_iff.1 h₄
  obtain ⟨placed, ht₁⟩ := placedOn_of_place h₁
  have attempt := attempt_of_tryRecording h₃
  exact ⟨host, r, placed.append _, by simpa [ht₁] using attempt, rfl⟩

/-! ## Stopping a recording -/

/-- The dealings of stopping a process: it is asked to exit, its exit is awaited, and it is killed
if it outlives the grace period. The first failure ends the attempt. -/
inductive Stopping (p : Process) (grace : Duration) : List Dealing → Prop
  | refused (e : IoError) : Stopping p grace [.terminate p (.error e)]
  | unwatched (e : IoError) :
      Stopping p grace [.terminate p (.ok ()), .waitExit p grace (.error e)]
  | exited : Stopping p grace [.terminate p (.ok ()), .waitExit p grace (.ok true)]
  | killed (a : Except IoError Unit) :
      Stopping p grace [.terminate p (.ok ()), .waitExit p grace (.ok false), .kill p a]

/-- What is said about a process, said by whoever looks after consoles. -/
def Device.ofProcess (e : Exchange Process.interface) : Exchange (Device.interface ε) :=
  ⟨.process e.request, e.answer⟩

theorem runs_embed {α : Type} {p : Program Process.interface α}
    {t : List (Exchange (Device.interface ε))} {a : α} (h : Runs p.embed t a) :
    ∃ t', t = t'.map Device.ofProcess ∧ Runs p t' a := by
  induction p generalizing t with
  | done b =>
    obtain ⟨rfl, rfl⟩ := runs_done_iff.1 h
    exact ⟨[], rfl, .done _⟩
  | ask r next ih =>
    obtain ⟨t₁, t₂, answer, rfl, h₁, h₂⟩ := runs_bind.1 h
    obtain rfl := runs_ask.1 h₁
    obtain ⟨t', rfl, h'⟩ := ih answer h₂
    exact ⟨⟨r, answer⟩ :: t', rfl, .ask h'⟩

theorem dealings_ofProcess (t : List (Exchange Process.interface)) :
    dealings (t.map (Device.ofProcess (ε := ε))) = t.filterMap Dealing.ofProcess := by
  rw [dealings, List.filterMap_map]
  rfl

theorem stopping_of_stop {p : Process} {grace : Duration} {t : List (Exchange Process.interface)}
    {res : Except IoError Unit} (h : Runs (p.stop grace).run t res) :
    Stopping p grace (t.filterMap Dealing.ofProcess) := by
  unfold Process.stop at h
  obtain ⟨e, rfl, h₁⟩ | ⟨t₁, t₂, _, rfl, h₁, h₂⟩ := runs_try_bind.1 h
  · obtain rfl := runs_request_iff.1 h₁
    exact .refused e
  obtain rfl := runs_request_iff.1 h₁
  obtain ⟨e, rfl, h₃⟩ | ⟨t₃, t₄, gone, rfl, h₃, h₄⟩ := runs_try_bind.1 h₂
  · obtain rfl := runs_request_iff.1 h₃
    exact .unwatched e
  obtain rfl := runs_request_iff.1 h₃
  rcases gone with _ | _
  · obtain ⟨t₅, t₆, _, rfl, h₅, h₆⟩ := runs_lift_bind.1 h₄
    obtain rfl := runs_request_iff.1 h₅
    obtain rfl := runs_request_iff.1 h₆
    exact .killed res
  · obtain ⟨rfl, rfl⟩ := runs_try_pure.1 h₄
    exact .exited

/-- **Stopping a recording.** Its process is stopped, whatever comes of that. -/
theorem stopping_of_stopRecording {s : Settings.Console} {uuid : String} {r : Recording}
    {t : List (Exchange (Device.interface ε))} {a : Unit}
    (h : Runs (stopRecording s uuid r) t a) : Stopping r.process s.stopGrace (dealings t) := by
  unfold stopRecording at h
  obtain ⟨t₁, t₂, _, rfl, h₁, h₂⟩ := runs_bind.1 h
  obtain ⟨t₃, t₄, outcome, rfl, h₃, h₄⟩ := runs_bind.1 h₂
  obtain ⟨t₃, rfl, hstop⟩ := runs_embed h₃
  have quiet : dealings t₄ = [] := by
    rcases outcome with e | _
    · obtain ⟨t₅, t₆, _, rfl, h₅, h₆⟩ := runs_bind.1 h₄
      rw [dealings_append, dealings_log h₅, dealings_removeIfEmpty h₆, List.nil_append]
    · exact dealings_removeIfEmpty h₄
  simpa [dealings_log h₁, quiet, dealings_ofProcess] using stopping_of_stop hstop

/-- The dealings of giving up the recording of a watch, if it has one. -/
def Released (s : Settings.Console) : Option Recording → List Dealing → Prop
  | none, ds => ds = []
  | some r, ds => Stopping r.process s.stopGrace ds

theorem released_of_release {s : Settings.Console} {uuid : String} {w w' : Watch ε}
    {t : List (Exchange (Device.interface ε))} (h : Runs (w.release s uuid) t w') :
    Released s w.recording (dealings t) ∧ w' = { w with recording := none } := by
  unfold Watch.release at h
  rcases hw : w.recording with _ | r <;> simp only [hw] at h
  · obtain ⟨rfl, rfl⟩ := runs_pure_iff.1 h
    exact ⟨rfl, rfl⟩
  · obtain ⟨t₁, t₂, _, rfl, h₁, h₂⟩ := runs_bind.1 h
    obtain ⟨rfl, rfl⟩ := runs_pure_iff.1 h₂
    rw [List.append_nil]
    exact ⟨stopping_of_stopRecording h₁, rfl⟩

/-! ## Reconciling a watch -/

/-- What becomes of a watch once `status` was learnt about its subject, and with which deeds. The
outcome is the watch as it is kept, or nothing if it is given up. -/
inductive Reconciled (s : Settings.Console) (w : Watch ε)
    (deeds : List (Exchange (Device.interface ε))) : Except Fault Status → Option (Watch ε) → Prop
  /-- Nothing was learnt. -/
  | unknown (fault : Fault) : dealings deeds = [] → Reconciled s w deeds (.error fault) (some w)
  | ended {state : PowerState} {domid : Option Nat} :
      state.isTerminal → Released s w.recording (dealings deeds) →
      Reconciled s w deeds (.ok ⟨state, domid⟩) none
  | waiting {state : PowerState} :
      ¬ state.isTerminal → w.recording = none → dealings deeds = [] →
      Reconciled s w deeds (.ok ⟨state, none⟩) (some w)
  | begun {state : PowerState} {domid : Nat} {host : String} {r : Option Recording} :
      ¬ state.isTerminal → w.recording = none → w.PlacedOn deeds host →
      Attempt host domid (dealings deeds) r →
      Reconciled s w deeds (.ok ⟨state, some domid⟩) (some { w with recording := r })
  /-- The process of the recording could not be looked at. -/
  | unchecked {state : PowerState} {domid : Option Nat} {r : Recording} (e : IoError) :
      ¬ state.isTerminal → w.recording = some r →
      dealings deeds = [.exitCheck r.process (.error e)] →
      Reconciled s w deeds (.ok ⟨state, domid⟩) (some w)
  | kept {state : PowerState} {r : Recording} :
      ¬ state.isTerminal → w.recording = some r →
      dealings deeds = [.exitCheck r.process (.ok false)] →
      Reconciled s w deeds (.ok ⟨state, some r.domid⟩) (some w)
  | lost {state : PowerState} {r : Recording} {exited : Bool} {stops : List Dealing} :
      ¬ state.isTerminal → w.recording = some r →
      dealings deeds = .exitCheck r.process (.ok exited) :: stops →
      Stopping r.process s.stopGrace stops →
      Reconciled s w deeds (.ok ⟨state, none⟩) (some { w with recording := none })
  | replaced {state : PowerState} {domid : Nat} {r : Recording} {exited : Bool}
      {stops starts : List Dealing} {host : String} {r' : Option Recording} :
      ¬ state.isTerminal → w.recording = some r → exited = true ∨ domid ≠ r.domid →
      dealings deeds = .exitCheck r.process (.ok exited) :: (stops ++ starts) →
      Stopping r.process s.stopGrace stops → w.PlacedOn deeds host → Attempt host domid starts r' →
      Reconciled s w deeds (.ok ⟨state, some domid⟩) (some { w with recording := r' })

/-- What is said besides makes no difference to a reconciliation. -/
theorem Reconciled.append {s : Settings.Console} {w : Watch ε}
    {deeds more : List (Exchange (Device.interface ε))} {status : Except Fault Status}
    {outcome : Option (Watch ε)} (h : Reconciled s w deeds status outcome)
    (quiet : dealings more = []) : Reconciled s w (deeds ++ more) status outcome := by
  have same : dealings (deeds ++ more) = dealings deeds := by simp [quiet]
  cases h with
  | unknown fault hd => exact .unknown fault (same ▸ hd)
  | ended terminal hd => exact .ended terminal (same ▸ hd)
  | waiting live hw hd => exact .waiting live hw (same ▸ hd)
  | begun live hw placed hd => exact .begun live hw (placed.append more) (same ▸ hd)
  | unchecked e live hw hd => exact .unchecked e live hw (same ▸ hd)
  | kept live hw hd => exact .kept live hw (same ▸ hd)
  | lost live hw hd stop => exact .lost live hw (same ▸ hd) stop
  | replaced live hw stale hd stop placed start =>
    exact .replaced live hw stale (same ▸ hd) stop (placed.append more) start

/-- A reconciliation keeps the watch that it keeps: only the recording changes. -/
theorem Reconciled.same {s : Settings.Console} {w w' : Watch ε}
    {deeds : List (Exchange (Device.interface ε))} {status : Except Fault Status}
    (h : Reconciled s w deeds status (some w')) :
    w'.id = w.id ∧ w'.subject = w.subject ∧ w'.host = w.host := by
  cases h <;> exact ⟨rfl, rfl, rfl⟩

theorem exitCheck_of_hasExited {r : Recording} {t : List (Exchange (Device.interface ε))}
    {res : Except Trouble Bool} (h : Runs (hasExited r).run t res) :
    ∃ a : Except IoError Bool, res = a.mapError .io ∧ dealings t = [.exitCheck r.process a] := by
  obtain ⟨a, rfl, h₁⟩ := runs_mapError.1 h
  obtain ⟨_, rfl, h₂⟩ := runs_embed h₁
  obtain rfl := runs_request_iff.1 h₂
  exact ⟨a, rfl, rfl⟩

theorem exitCheck_of_needsRecording {uuid : String} {r : Recording} {domid : Option Nat}
    {t : List (Exchange (Device.interface ε))} {res : Except Trouble Bool}
    (h : Runs (needsRecording uuid (some r) domid).run t res) :
    (∃ e, res = .error (.io e) ∧ dealings t = [.exitCheck r.process (.error e)]) ∨
      ∃ exited, dealings t = [.exitCheck r.process (.ok exited)] ∧
        res = .ok (exited || decide (domid ≠ some r.domid)) := by
  unfold needsRecording at h
  obtain ⟨e, rfl, h₁⟩ | ⟨t₁, t₂, exited, rfl, h₁, h₂⟩ := runs_try_bind.1 h
  all_goals obtain ⟨a, ha, ht⟩ := exitCheck_of_hasExited h₁
  all_goals rcases a with e' | exited' <;> cases ha
  · exact .inl ⟨e', rfl, ht⟩
  refine .inr ⟨exited, ?_⟩
  rw [dealings_append, ht]
  have quiet {level : Log.Level} {text : String} {b : Bool}
      (h : Runs (do ExceptT.lift (Device.log level text); return b : RiskyCare ε Bool).run t₂ res) :
      dealings t₂ = [] ∧ res = .ok b := by
    obtain ⟨t₃, t₄, _, rfl, h₃, h₄⟩ := runs_lift_bind.1 h
    obtain ⟨rfl, rfl⟩ := runs_try_pure.1 h₄
    exact ⟨by simp [dealings_log h₃], rfl⟩
  by_cases hx : exited = true
  · simp only [hx, ↓reduceIte] at h₂ ⊢
    obtain ⟨ht₂, rfl⟩ := quiet h₂
    simp [ht₂]
  by_cases hd : domid = some r.domid
  · simp only [hx, hd, ne_eq, not_true_eq_false, ↓reduceIte] at h₂
    obtain ⟨rfl, rfl⟩ := runs_try_pure.1 h₂
    simp [hx, hd]
  · simp only [hx, hd, ne_eq, not_false_eq_true, ↓reduceIte] at h₂
    obtain ⟨ht₂, rfl⟩ := quiet h₂
    simp [hx, hd, ht₂]

/-- The part of a reconciliation that follows the decision to replace the recording. -/
theorem replaced_of_release {s : Settings.Console} {uuid : String} {w : Watch ε}
    {domid : Option Nat} {t : List (Exchange (Device.interface ε))}
    {res : Except Trouble (Option (Watch ε))}
    (h : Runs (do
      let w ← ExceptT.lift (w.release s uuid)
      match domid with
      | some domid => return some (← ExceptT.lift (w.record s uuid domid))
      | none => return some w : RiskyCare ε (Option (Watch ε))).run t res) :
    ∃ stops starts r, dealings t = stops ++ starts ∧ Released s w.recording stops ∧
      res = .ok (some { w with recording := r }) ∧
      match domid with
      | some domid => ∃ host, w.PlacedOn t host ∧ Attempt host domid starts r
      | none => starts = [] ∧ r = none := by
  obtain ⟨t₁, t₂, w', rfl, h₁, h₂⟩ := runs_lift_bind.1 h
  obtain ⟨released, rfl⟩ := released_of_release h₁
  rcases domid with _ | domid
  · obtain ⟨rfl, rfl⟩ := runs_try_pure.1 h₂
    exact ⟨_, [], none, by simp, released, rfl, rfl, rfl⟩
  · obtain ⟨t₃, t₄, w', rfl, h₃, h₄⟩ := runs_lift_bind.1 h₂
    obtain ⟨rfl, rfl⟩ := runs_try_pure.1 h₄
    obtain ⟨host, r, placed, attempt, rfl⟩ := attempt_of_record h₃
    have placed : w.PlacedOn t₃ host := placed
    refine ⟨_, _, r, by simp, released, rfl, host, ?_, attempt⟩
    simpa using placed.prepend t₁

/-- **Reconciling a watch.** Trouble leaves the watch as it is. -/
theorem reconciled_of_reconcile {s : Settings.Console} {uuid : String} {w : Watch ε}
    {status : Status} {t : List (Exchange (Device.interface ε))}
    {res : Except Trouble (Option (Watch ε))} (h : Runs (w.reconcile s uuid status).run t res) :
    Reconciled s w t (.ok status) (res.toOption.getD (some w)) := by
  obtain ⟨state, domid⟩ := status
  unfold Watch.reconcile at h
  by_cases terminal : state.isTerminal
  · simp only [terminal, ↓reduceIte] at h
    obtain ⟨t₁, t₂, _, rfl, h₁, h₂⟩ := runs_lift_bind.1 h
    obtain ⟨t₃, t₄, _, rfl, h₃, h₄⟩ := runs_lift_bind.1 h₂
    obtain ⟨rfl, rfl⟩ := runs_try_pure.1 h₄
    refine .ended terminal ?_
    simpa [dealings_log h₁] using (released_of_release h₃).1
  simp only [terminal, Bool.false_eq_true, ↓reduceIte] at h
  rcases hw : w.recording with _ | r <;> rw [hw] at h
  · obtain ⟨_, _, h₁⟩ | ⟨t₁, t₂, stale, rfl, h₁, h₂⟩ := runs_try_bind.1 h
    · cases (runs_try_pure.1 h₁).2
    obtain ⟨rfl, hs⟩ := runs_try_pure.1 h₁
    cases hs
    rcases domid with _ | domid
    · obtain ⟨rfl, rfl⟩ := runs_try_pure.1 h₂
      exact .waiting terminal hw rfl
    · rw [if_pos Option.isSome_some] at h₂
      obtain ⟨stops, starts, r, ht, released, rfl, host, placed, attempt⟩ :=
        @replaced_of_release _ s uuid w (some domid) _ _ h₂
      rw [hw] at released
      obtain rfl : stops = [] := released
      rw [List.nil_append] at ht
      exact .begun terminal hw placed (ht ▸ attempt)
  obtain ⟨e, rfl, h₁⟩ | ⟨t₁, t₂, stale, rfl, h₁, h₂⟩ := runs_try_bind.1 h
  · obtain ⟨e', -, ht⟩ | ⟨_, -, he⟩ := exitCheck_of_needsRecording h₁
    · exact .unchecked e' terminal hw ht
    · cases he
  obtain ⟨_, he, -⟩ | ⟨exited, ht, hs⟩ := exitCheck_of_needsRecording h₁
  · cases he
  cases hs
  by_cases stale : exited = true ∨ domid ≠ some r.domid
  · have stale' : (exited || decide (domid ≠ some r.domid)) = true := by simpa using stale
    simp only [stale', ↓reduceIte] at h₂
    obtain ⟨stops, starts, r', ht₂, released, rfl, rest⟩ :=
      @replaced_of_release _ s uuid w domid _ _ h₂
    rw [hw] at released
    have order : dealings (t₁ ++ t₂) = .exitCheck r.process (.ok exited) :: (stops ++ starts) := by
      simp [ht, ht₂]
    rcases domid with _ | domid
    · obtain ⟨rfl, rfl⟩ := rest
      rw [List.append_nil] at order
      exact .lost terminal hw order released
    · obtain ⟨host, placed, attempt⟩ := rest
      exact .replaced terminal hw (by simpa using stale) order released (placed.prepend t₁) attempt
  · have stale' : (exited || decide (domid ≠ some r.domid)) = false := by simpa using stale
    simp only [stale', Bool.false_eq_true, ↓reduceIte] at h₂
    obtain ⟨rfl, rfl⟩ := runs_try_pure.1 h₂
    obtain ⟨hx, hd⟩ := not_or.1 stale
    obtain rfl := Decidable.not_not.1 hd
    exact .kept terminal hw (by simp [ht, hx])

/-! ## What is launched and what is stopped -/

theorem Attempt.booked {host : String} {domid : Nat} {ds : List Dealing} {r : Option Recording}
    (h : Attempt host domid ds r) :
    ds.filterMap Dealing.launched = (r.map (·.process)).toList ∧
      ds.filterMap Dealing.stopped = [] := by
  cases h <;> exact ⟨rfl, rfl⟩

theorem Stopping.booked {p : Process} {grace : Duration} {ds : List Dealing}
    (h : Stopping p grace ds) :
    ds.filterMap Dealing.launched = [] ∧ ds.filterMap Dealing.stopped = [p] := by
  cases h <;> exact ⟨rfl, rfl⟩

theorem Released.booked {s : Settings.Console} {r : Option Recording} {ds : List Dealing}
    (h : Released s r ds) :
    ds.filterMap Dealing.launched = [] ∧
      ds.filterMap Dealing.stopped = (r.map (·.process)).toList := by
  rcases r with _ | r
  · obtain rfl : ds = [] := h
    exact ⟨rfl, rfl⟩
  · exact Stopping.booked h

theorem Attempt.recorded {host : String} {domid : Nat} {ds : List Dealing} {r : Option Recording}
    (h : Attempt host domid ds r) :
    ds.filterMap Dealing.recorded = (r.map (host, ·)).toList := by
  cases h <;> rfl

theorem Stopping.recorded {p : Process} {grace : Duration} {ds : List Dealing}
    (h : Stopping p grace ds) : ds.filterMap Dealing.recorded = [] := by
  cases h <;> rfl

/-- The recording of a reconciled watch is the one that it had, or was begun on its host. -/
theorem Reconciled.recorded {s : Settings.Console} {w w' : Watch ε}
    {deeds : List (Exchange (Device.interface ε))} {status : Except Fault Status}
    (h : Reconciled s w deeds status (some w')) :
    (w' = w ∧ (dealings deeds).filterMap Dealing.recorded = []) ∨
      w'.recording = none ∨
      ∃ host, w'.PlacedOn deeds host ∧
        (dealings deeds).filterMap Dealing.recorded = (w'.recording.map (host, ·)).toList := by
  cases h with
  | unknown fault hd | waiting _ _ hd | unchecked _ _ _ hd | kept _ _ hd =>
    exact .inl ⟨rfl, by rw [hd]; rfl⟩
  | begun _ _ placed attempt => exact .inr (.inr ⟨_, placed, attempt.recorded⟩)
  | lost => exact .inr (.inl rfl)
  | replaced _ _ _ hd stopping placed attempt =>
    refine .inr (.inr ⟨_, placed, ?_⟩)
    rw [hd, List.filterMap_cons, List.filterMap_append, stopping.recorded, attempt.recorded]
    rfl

/-- A reconciliation stops what the watch gives up and launches what it gets. -/
theorem Reconciled.balance {s : Settings.Console} {w : Watch ε}
    {deeds : List (Exchange (Device.interface ε))} {status : Except Fault Status}
    {outcome : Option (Watch ε)} (h : Reconciled s w deeds status outcome) :
    ((w.recording.map (·.process)).toList ++ (dealings deeds).filterMap Dealing.launched).Perm
      ((dealings deeds).filterMap Dealing.stopped ++
        ((outcome.bind (·.recording)).map (·.process)).toList) := by
  cases h with
  | unknown fault hd => simp [hd]
  | ended _ released => simp [Released.booked released]
  | waiting _ hw hd => simp [hd, hw]
  | begun _ hw _ attempt => simp [hw, attempt.booked.1, attempt.booked.2]
  | unchecked e _ hw hd => simp [hd, hw, List.filterMap_cons]
  | kept _ hw hd => simp [hd, hw, List.filterMap_cons]
  | lost _ hw hd stopping =>
    simp [hd, hw, List.filterMap_cons, stopping.booked.1, stopping.booked.2]
  | replaced _ hw _ hd stopping _ attempt =>
    simp [hd, hw, List.filterMap_cons, stopping.booked.1, stopping.booked.2, attempt.booked.1,
      attempt.booked.2]

end Testbed.Console
