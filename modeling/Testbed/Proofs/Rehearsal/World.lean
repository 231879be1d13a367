import Testbed.Proofs.Transport.Execution
import Testbed.Rehearsal.Performance
/-!
# What is written down of a rehearsal

Commands that are answered by rules are written down as they come, and so are the log entries that
matter enough; time passes only while the program sleeps. So whatever is rehearsed is a run of the
program, and what was written down is what was said in it.

Main statement: `leaves_of_run`; `Leaves.calls` and `Leaves.entries` read the commands and the log
off it.
-/
namespace Testbed.Rehearsal.World

open Program Transport

def ByRules (w : World) : Prop := w.staging = .told ∨ w.staging = .acted

/-- What is written down of an exchange. -/
def noted (maxRank : Nat) : Exchange Transport.interface → Option Event
  | ⟨.run argv, _⟩ => some (.call argv)
  | ⟨.start argv _, _⟩ => some (.spawn argv)
  | ⟨.sleep _, _⟩ => none
  | ⟨.log entry, _⟩ => if entry.level.rank ≤ maxRank then some (.log entry) else none

/-- The milliseconds that an exchange takes. -/
def takes : Exchange Transport.interface → Nat
  | ⟨.sleep d, _⟩ => d.nanos / Duration.millisecond
  | _ => 0

def spent : List (Exchange Transport.interface) → Nat
  | [] => 0
  | e :: rest => takes e + spent rest

/-- What is left behind where events are written down and time passes. -/
structure Leaves (w : World) (events : List Event) (time : Nat) (w' : World) : Prop where
  events : w'.events = events.reverse ++ w.events
  clock : w'.clock = w.clock + time
  staging : w'.staging = w.staging
  maxRank : w'.maxRank = w.maxRank

variable {α β : Type} {w w' w'' : World} {events later : List Event} {time more : Nat}

theorem Leaves.byRules (leaves : Leaves w events time w') (rules : w.ByRules) : w'.ByRules := by
  unfold ByRules
  rwa [leaves.staging]

theorem Leaves.trans (first : Leaves w events time w') (second : Leaves w' later more w'') :
    Leaves w (events ++ later) (time + more) w'' where
  events := by rw [second.events, first.events, List.reverse_append, List.append_assoc]
  clock := by rw [second.clock, first.clock, Nat.add_assoc]
  staging := second.staging.trans first.staging
  maxRank := second.maxRank.trans first.maxRank

/-! ## What plays keep -/

/-- A relation that holds of a world and any that comes of it step by step. -/
structure Lasting (R : World → World → Prop) : Prop where
  refl : ∀ w, R w w
  trans : ∀ {w w' w''}, R w w' → R w' w'' → R w w''

/-- Wherever a play begins, it leads to a related world. -/
def Keeps (R : World → World → Prop) (p : Play α) : Prop := ∀ w, R w (p.run w).2

section Keeps

variable {R : World → World → Prop} (lasting : Lasting R)

include lasting

theorem keeps_pure (a : α) : Keeps R (pure a) := lasting.refl

theorem keeps_bind {p : Play α} {f : α → Play β} (hp : Keeps R p) (hf : ∀ a, Keeps R (f a)) :
    Keeps R (p >>= f) := fun w => lasting.trans (hp w) (hf (p.run w).1 (p.run w).2)

theorem keeps_interpret {I : Interface} {serve : (r : I.Request) → Play (I.Answer r)}
    (each : ∀ r, Keeps R (serve r)) (p : Program I α) : Keeps R (p.interpret serve) := by
  intro w
  obtain ⟨t, -, served⟩ := interpret_eq_iff.1 (rfl : (p.interpret serve).run w = _)
  exact served_preserves (R w) (fun r w' so => lasting.trans so (each r w')) served
    (lasting.refl w)

end Keeps

theorem keeps_get {R : World → World → Prop} {f : World → Play β} (each : ∀ w, Keeps R (f w)) :
    Keeps R (get >>= f) := fun w => each w w

/-! ## What leaves nothing behind -/

def Still (w w' : World) : Prop := Leaves w [] 0 w'

theorem lasting_still : Lasting Still := ⟨fun _ => ⟨rfl, rfl, rfl, rfl⟩, Leaves.trans⟩

theorem leaves_bind {p : Play α} {f : α → Play β} (first : Leaves w events time (p.run w).2)
    (still : ∀ a, Keeps Still (f a)) : Leaves w events time ((p >>= f).run w).2 := by
  have both := first.trans (still (p.run w).1 (p.run w).2)
  rwa [List.append_nil] at both

theorem leaves_get {f : World → Play β} (rest : Leaves w events time ((f w).run w).2) :
    Leaves w events time ((get >>= f).run w).2 := rest

theorem still_respond (argv : List String) : Keeps Still (respond argv) :=
  fun _ => ⟨rfl, rfl, rfl, rfl⟩

theorem still_startPuppet (name : String) (pid : Nat) (log : Option String) :
    Keeps Still (startPuppet name pid log) := fun _ => ⟨rfl, rfl, rfl, rfl⟩

theorem still_writeLog (file : Option Nat) (bytes : List UInt8) :
    Keeps Still (writeLog file bytes) := by
  cases file <;> exact fun _ => ⟨rfl, rfl, rfl, rfl⟩

theorem leaves_record (e : Event) : Leaves w [e] 0 ((record e).run w).2 := ⟨rfl, rfl, rfl, rfl⟩

/-! ## The requests -/

theorem leaves_runCommand (rules : w.ByRules) (argv : List String) :
    Leaves w [.call argv] 0 ((runCommand argv).run w).2 := by
  have played : w.staging ≠ .missing ∧ w.staging ≠ .real := by
    rcases rules with told | acted <;> simp [*]
  refine leaves_get ?_
  simp only [played, if_false]
  refine leaves_bind (leaves_record _) fun _ =>
    keeps_bind lasting_still (still_respond _) fun response => ?_
  split <;> exact keeps_pure lasting_still _

theorem leaves_startCommand (rules : w.ByRules) (argv : List String) (log : Option String) :
    Leaves w [.spawn argv] 0 ((startCommand argv log).run w).2 := by
  have played : w.staging ≠ .missing := by
    rcases rules with told | acted <;> simp [*]
  refine leaves_get ?_
  simp only [played, if_false]
  refine leaves_bind (leaves_record _) fun _ =>
    keeps_bind lasting_still (still_respond _) fun response => ?_
  split
  · exact keeps_pure lasting_still _
  refine keeps_bind lasting_still (still_startPuppet _ _ _) fun process => ?_
  split
  · exact keeps_get fun _ => keeps_bind lasting_still (still_writeLog _ _) fun _ =>
      keeps_pure lasting_still _
  · exact keeps_pure lasting_still _

theorem leaves_answerTransport (rules : w.ByRules) {r : Transport.Request}
    {a : Transport.Answer r} (given : (answerTransport r).run w = (a, w')) :
    Leaves w ([⟨r, a⟩].filterMap (noted w.maxRank)) (takes ⟨r, a⟩) w' := by
  obtain rfl : _ = w' := congrArg Prod.snd given
  cases r with
  | run argv => exact leaves_runCommand rules argv
  | start argv log => exact leaves_startCommand rules argv log
  | sleep d => exact ⟨rfl, rfl, rfl, rfl⟩
  | log entry =>
    refine leaves_get ?_
    by_cases matters : entry.level.rank ≤ w.maxRank <;>
      simp only [List.filterMap_cons, List.filterMap_nil, noted, takes, matters, if_true,
        if_false]
    · exact leaves_record _
    · exact keeps_pure lasting_still _ w

/-! ## Programs -/

theorem leaves_of_served {t : List (Exchange Transport.interface)} (rules : w.ByRules)
    (served : Served (I := interface) answerTransport w t w') :
    Leaves w (t.filterMap (noted w.maxRank)) (spent t) w' := by
  induction served with
  | rest w => exact ⟨rfl, rfl, rfl, rfl⟩
  | answered given _ ih =>
    have first := leaves_answerTransport rules given
    have both := first.trans (ih (first.byRules rules))
    rw [first.maxRank, ← List.filterMap_append] at both
    exact both

/-- **A rehearsal is a run of the program**, and what is written down is what is said in it. -/
theorem leaves_of_run {p : Program Transport.interface α} {a : α} (rules : w.ByRules)
    (rehearsed : (World.run p).run w = (a, w')) :
    ∃ t, Runs p t a ∧ Leaves w (t.filterMap (noted w.maxRank)) (spent t) w' := by
  obtain ⟨t, run, served⟩ := interpret_eq_iff.1 rehearsed
  exact ⟨t, run, leaves_of_served rules served⟩

/-- The commands that are written down are those that were run. -/
theorem Leaves.calls {t : List (Exchange Transport.interface)}
    (leaves : Leaves w (t.filterMap (noted w.maxRank)) time w') :
    w'.calls = w.calls ++ (ran t).map (·.1) := by
  simp only [World.calls, leaves.events, List.reverse_append, List.reverse_reverse,
    List.filterMap_append, List.filterMap_filterMap, ran, List.map_filterMap]
  congr 2
  funext e
  obtain ⟨r, a⟩ := e
  cases r with
  | log entry => by_cases matters : entry.level.rank ≤ w.maxRank <;> simp [noted, matters]
  | _ => rfl

/-- The log that is written down are the entries that matter enough. -/
theorem Leaves.entries {t : List (Exchange Transport.interface)}
    (leaves : Leaves w (t.filterMap (noted w.maxRank)) time w') :
    w'.entries = w.entries ++ (logged t).filter (·.level.rank ≤ w.maxRank) := by
  simp only [World.entries, leaves.events, List.reverse_append, List.reverse_reverse,
    List.filterMap_append, List.filterMap_filterMap, logged, List.filter_filterMap]
  congr 2
  funext e
  obtain ⟨r, a⟩ := e
  cases r with
  | log entry =>
    by_cases matters : entry.level.rank ≤ w.maxRank <;> simp [noted, matters, Option.filter]
  | _ => rfl

/-! ## Threads are only added -/

def Hires (w w' : World) : Prop := w.threads ≤ w'.threads

theorem lasting_hires : Lasting Hires := ⟨fun _ => Nat.le_refl _, Nat.le_trans⟩

theorem hires_pure (a : α) : Keeps Hires (pure a) := keeps_pure lasting_hires a

theorem hires_record (e : Event) : Keeps Hires (record e) := fun _ => Nat.le_refl _

theorem hires_recordLog (entry : Log.Entry) : Keeps Hires (recordLog entry) :=
  keeps_get fun w => by
    by_cases matters : entry.level.rank ≤ w.maxRank <;> simp only [matters, if_true, if_false]
    · exact hires_record _
    · exact hires_pure _

theorem hires_writeLog (file : Option Nat) (bytes : List UInt8) :
    Keeps Hires (writeLog file bytes) := by
  cases file <;> exact fun _ => Nat.le_refl _

theorem hires_runReal (argv : List String) : Keeps Hires (runReal argv) := by
  intro w
  simp only [runReal, StateT.run]
  split <;> exact Nat.le_refl _

theorem hires_respond (argv : List String) : Keeps Hires (respond argv) := fun _ => Nat.le_refl _

theorem hires_startPuppet (name : String) (pid : Nat) (log : Option String) :
    Keeps Hires (startPuppet name pid log) := fun _ => Nat.le_refl _

theorem hires_runCommand (argv : List String) : Keeps Hires (runCommand argv) :=
  keeps_get fun w => by
    dsimp only
    split
    · exact hires_pure _
    split
    · exact hires_runReal argv
    refine keeps_bind lasting_hires (hires_record _) fun _ =>
      keeps_bind lasting_hires (hires_respond _) fun response => ?_
    split <;> exact hires_pure _

theorem hires_startCommand (argv : List String) (log : Option String) :
    Keeps Hires (startCommand argv log) :=
  keeps_get fun w => by
    dsimp only
    split
    · exact hires_pure _
    refine keeps_bind lasting_hires (hires_record _) fun _ =>
      keeps_bind lasting_hires (hires_respond _) fun response => ?_
    split
    · exact hires_pure _
    refine keeps_bind lasting_hires (hires_startPuppet _ _ _) fun process => ?_
    split
    · exact keeps_get fun _ => keeps_bind lasting_hires (hires_writeLog _ _) fun _ => hires_pure _
    · exact hires_pure _

theorem hires_answerTransport (r : Transport.Request) : Keeps Hires (answerTransport r) := by
  cases r with
  | run argv => exact hires_runCommand argv
  | start argv log => exact hires_startCommand argv log
  | sleep d => exact fun _ => Nat.le_refl _
  | log entry => exact hires_recordLog entry

theorem hires_run (p : Program Transport.interface α) : Keeps Hires (World.run p) :=
  keeps_interpret lasting_hires hires_answerTransport p

theorem hires_onPuppet (p : Process) (m : Method) (event : String → Event)
    (act : Puppet → α × Puppet) : Keeps Hires (onPuppet p m event act) := by
  refine keeps_get fun w => ?_
  refine keeps_bind lasting_hires (hires_record _) fun _ => ?_
  split
  · exact hires_pure _
  · exact fun _ => Nat.le_refl _

theorem hires_answerProcess (r : Process.Request) : Keeps Hires (answerProcess r) := by
  cases r with
  | log entry => exact hires_recordLog entry
  | _ =>
    unfold answerProcess
    exact hires_onPuppet _ _ _ _

theorem hires_onFiles (act : Files → Except OsError Unit × Files) : Keeps Hires (onFiles act) :=
  fun _ => Nat.le_refl _

theorem hires_scriptedLaunch (host : String) (domid : Nat) (log : String) :
    Keeps Hires (scriptedLaunch host domid log) := by
  refine keeps_bind lasting_hires (hires_record _) fun _ =>
    keeps_bind lasting_hires (fun _ => Nat.le_refl _) fun _ => keeps_get fun w =>
      keeps_bind lasting_hires (hires_writeLog _ _) fun _ => ?_
  split
  · exact hires_pure _
  · exact keeps_bind lasting_hires (hires_startPuppet _ _ _) fun _ => hires_pure _

theorem hires_answerDevice (launcher : Launcher) (r : Console.Device.Request Subject) :
    Keeps Hires (answerDevice launcher r) := by
  cases r with
  | launch host domid log =>
    cases launcher with
    | scripted => exact hires_scriptedLaunch host domid log
    | attached t => exact hires_run _
  | process r => exact hires_answerProcess r
  | startThread => exact fun w => Nat.le_succ w.threads
  | log entry => exact hires_recordLog entry
  | makeDirs | openLog | removeFile =>
    unfold answerDevice
    exact hires_onFiles _
  | hostOf | fileSize | now => exact fun _ => Nat.le_refl _

theorem hires_askState (s : Subject) : Keeps Hires (askState s) := by
  cases s with
  | actor n =>
    refine keeps_get fun w => ?_
    dsimp only
    split <;> exact hires_pure _
  | guest n =>
    refine keeps_get fun w => ?_
    split
    · exact hires_run _
    · exact hires_pure _
  | fixed g => exact hires_run _

theorem hires_askDomid (s : Subject) : Keeps Hires (askDomid s) := by
  refine keeps_get fun w => keeps_bind lasting_hires (hires_record _) fun _ => ?_
  cases s with
  | actor n =>
    refine keeps_get fun w => ?_
    dsimp only
    split <;> exact hires_pure _
  | guest n =>
    refine keeps_get fun w => ?_
    split
    · exact hires_run _
    · exact hires_pure _
  | fixed g => exact hires_run _

end Testbed.Rehearsal.World
