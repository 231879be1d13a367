import Testbed.Console.Service
import Testbed.Proofs.Console.Calls
/-!
# The threads of the passes in a run

A run of a monitor in which the threads of the passes are told from the callers, with the states
that it goes through. It is a route like any other (`route_of_shift`); what is new is what becomes
of the threads.

Main statements: `shift_invariant`, what every turn keeps; `kept_of_turn`, calls of a kind stay of
that kind; `occupied_of_told`, a thread that word was sent to begins no pass any more;
`shift_attend`, a run as it can be computed.
-/
namespace Testbed.Console.Monitor

open Program

variable {ε : Type} {s : Settings.Console} {may : Entry ε → Prop}

/-- Any number of turns, as the legs that are made in them. -/
inductive Shift (s : Settings.Console) (may : Entry ε → Prop) :
    Service ε → List (Leg ε) → Service ε → Prop
  | rest (v : Service ε) : Shift s may v [] v
  | turn {v w x : Service ε} {m : Option (Move ε)} {more : List (Leg ε)} :
      Turn s may v m w → Shift s may w more x →
      Shift s may v (m.toList.map (⟨·, v.state, w.state⟩) ++ more) x

theorem shift_of_turn {v w : Service ε} {m : Option (Move ε)} (turn : Turn s may v m w) :
    Shift s may v (m.toList.map (⟨·, v.state, w.state⟩)) w := by
  have shift := Shift.turn turn (.rest w)
  rwa [List.append_nil] at shift

theorem shift_append {v w x : Service ε} {first second : List (Leg ε)} (h₁ : Shift s may v first w)
    (h₂ : Shift s may w second x) : Shift s may v (first ++ second) x := by
  induction h₁ with
  | rest => exact h₂
  | turn turn _ ih =>
    rw [List.append_assoc]
    exact .turn turn (ih h₂)

/-- **A shift is a route.** -/
theorem route_of_shift {v w : Service ε} {legs : List (Leg ε)} (run : Shift s may v legs w) :
    Route s v.toProgress legs w.toProgress := by
  induction run with
  | rest v => exact .rest _
  | @turn v w x m more turn _ ih =>
    rcases m with _ | m
    · rwa [← still_of_turn turn]
    · exact route_append (route_of_step (step_of_turn turn)) ih

/-- **Invariants.** What every turn keeps holds in the end, and what follows from it for the move of
a turn holds of every leg. -/
theorem shift_invariant (Inv : Service ε → Prop) (Seen : Leg ε → Prop)
    (kept : ∀ {v w : Service ε} {m : Option (Move ε)}, Turn s may v m w → Inv v →
      Inv w ∧ ∀ move ∈ m, Seen ⟨move, v.state, w.state⟩)
    {v w : Service ε} {legs : List (Leg ε)} (run : Shift s may v legs w) (start : Inv v) :
    Inv w ∧ ∀ leg ∈ legs, Seen leg := by
  induction run with
  | rest v => exact ⟨start, by simp⟩
  | turn turn _ ih =>
    obtain ⟨next, seen⟩ := kept turn start
    obtain ⟨last, later⟩ := ih next
    refine ⟨last, fun leg hleg => ?_⟩
    rcases List.mem_append.1 hleg with hleg | hleg
    · obtain ⟨move, hmove, rfl⟩ := List.mem_map.1 hleg
      exact seen move (Option.mem_toList.1 hmove)
    · exact later leg hleg

theorem shift_preserves {Inv : Service ε → Prop}
    (kept : ∀ {v w : Service ε} {m : Option (Move ε)}, Turn s may v m w → Inv v → Inv w)
    {v w : Service ε} {legs : List (Leg ε)} (run : Shift s may v legs w) (start : Inv v) : Inv w :=
  (shift_invariant Inv (fun _ => True) (fun turn h => ⟨kept turn h, fun _ _ => trivial⟩) run
    start).1

/-! ## What the calls are kept to -/

/-- Each thread makes calls of a kind if such calls may begin, and their steps lead to such
calls. -/
theorem kept_of_turn {Kind : Nat → Call ε Unit → Prop} {v w : Service ε} {m : Option (Move ε)}
    (begins : ∀ thread entry, may entry → Kind thread (entry.call s))
    (passes : ∀ thread, Kind thread pass)
    (goes : ∀ {thread : Nat} {r : Request ε} {next : Answer ε r → Call ε Unit} {a : Answer ε r}
      {deeds : Deeds ε} {after : State ε},
      Serves s v.state r a deeds after → Kind thread (.ask r next) → Kind thread (next a))
    (turn : Turn s may v m w) (kind : ∀ thread, Kind thread (v.calls thread)) :
    ∀ thread, Kind thread (w.calls thread) := by
  intro thread
  cases turn with
  | @call other entry allowed _ _ =>
    rw [calls_setCall]
    split
    · exact begins thread entry allowed
    · exact kind thread
  | @wake worker call _ _ wakes =>
    obtain ⟨-, rfl⟩ := onWake_eq_some wakes
    rw [calls_setCall]
    split
    · exact passes thread
    · exact kind thread
  | retire | tell => exact kind thread
  | go step he _ _ =>
    exact callsKept_of_step step (fun _ begins => by cases he.symm.trans begins) goes kind thread

/-- Threads that make only requests of some kinds go on like that if what may begin does not ask for
anything else. -/
theorem asksOnly_of_turn {kind : Nat → Request ε → Prop}
    (begins : ∀ thread entry, may entry → AsksOnly (I := interface ε) (kind thread) (entry.call s))
    (passes : ∀ thread, AsksOnly (I := interface ε) (kind thread) pass) {v w : Service ε}
    {m : Option (Move ε)} (turn : Turn s may v m w)
    (kinds : ∀ thread, AsksOnly (I := interface ε) (kind thread) (v.calls thread)) :
    ∀ thread, AsksOnly (I := interface ε) (kind thread) (w.calls thread) :=
  kept_of_turn begins passes (fun _ asks => asks.2 _) turn kinds

/-- A shift can be cut at a leg. -/
theorem shift_cut {v w : Service ε} {first last : List (Leg ε)} {leg : Leg ε}
    (run : Shift s may v (first ++ leg :: last) w) :
    ∃ v' w', Shift s may v first v' ∧ Turn s may v' (some leg.toMove) w' ∧
      Shift s may w' last w ∧ v'.state = leg.before ∧ w'.state = leg.after := by
  generalize hlegs : first ++ leg :: last = legs at run
  induction run generalizing first with
  | rest => simp at hlegs
  | @turn v w x m more turn run ih =>
    rcases m with _ | m
    · obtain ⟨v', w', before, rest⟩ := ih hlegs
      exact ⟨v', w', .turn turn before, rest⟩
    rcases first with _ | ⟨head, first⟩
    · obtain ⟨rfl, rfl⟩ := List.cons_eq_cons.1 hlegs
      exact ⟨v, w, .rest v, turn, run, rfl, rfl⟩
    · obtain ⟨rfl, tail⟩ := List.cons_eq_cons.1 hlegs
      obtain ⟨v', w', before, rest⟩ := ih tail
      exact ⟨v', w', .turn turn before, rest⟩

/-! ## What becomes of the threads -/

/-- What there is to a service besides its calls only grows. -/
theorem grown_of_turn {v w : Service ε} {m : Option (Move ε)} (turn : Turn s may v m w) :
    v.workers ⊆ w.workers ∧ v.told ⊆ w.told := by
  cases turn with
  | call | wake | retire => exact ⟨List.Subset.refl _, List.Subset.refl _⟩
  | tell => exact ⟨List.Subset.refl _, List.subset_cons_self ..⟩
  | go => exact ⟨List.subset_append_right .., List.Subset.refl _⟩

theorem grown_of_shift {v w : Service ε} {legs : List (Leg ε)} (run : Shift s may v legs w) :
    v.workers ⊆ w.workers ∧ v.told ⊆ w.told := by
  induction run with
  | rest v => exact ⟨List.Subset.refl _, List.Subset.refl _⟩
  | turn turn _ ih =>
    obtain ⟨workers, told⟩ := grown_of_turn turn
    exact ⟨List.Subset.trans workers ih.1, List.Subset.trans told ih.2⟩

/-- The thread that the monitor counts on was started for the passes. -/
def Service.Employed (v : Service ε) : Prop :=
  ∀ worker, v.state.worker = some worker → worker ∈ v.workers

theorem employed_start : ({} : Service ε).Employed := nofun

theorem employed_of_turn {v w : Service ε} {m : Option (Move ε)} (turn : Turn s may v m w)
    (employed : v.Employed) : w.Employed := by
  cases turn with
  | call | wake | retire | tell => exact employed
  | go step _ _ _ =>
    intro worker hw
    refine List.mem_append.2 ?_
    cases step with
    | start => exact .inr (employed worker hw)
    | go asks serves =>
      cases serves with
      | locked run =>
        cases performed_of_runs run with
        | started => exact .inl (by simpa [Move.started, eq_comm] using hw)
        | settled => exact .inr (employed worker (by simpa using hw))
        | takeWorker => cases hw
        | _ => exact .inr (employed worker hw)
      | _ => exact .inr (employed worker hw)

theorem employed_of_shift {v w : Service ε} {legs : List (Leg ε)} (run : Shift s may v legs w)
    (employed : v.Employed) : w.Employed :=
  shift_preserves employed_of_turn run employed

theorem taken_of_step {p q : Progress ε} {m : Move ε} (h : Step s p m q) {worker : Option Nat}
    (hm : m.exchange = some ⟨.locked .takeWorker, worker⟩) : worker = p.state.worker := by
  cases h with
  | start => cases hm
  | go asks serves =>
    cases hm
    cases serves with
    | locked run =>
      cases performed_of_runs run
      rfl

/-- A thread that is given up was started for the passes. -/
theorem worker_of_taken {v w : Service ε} {legs : List (Leg ε)} (run : Shift s may v legs w)
    (employed : v.Employed) {leg : Leg ε} (hleg : leg ∈ legs) {worker : Nat}
    (he : leg.exchange = some ⟨.locked .takeWorker, some worker⟩) : worker ∈ w.workers := by
  obtain ⟨first, last, rfl⟩ := List.append_of_mem hleg
  obtain ⟨m, _, _⟩ := leg
  obtain ⟨v', w', before, turn, after, -⟩ := shift_cut run
  have own := employed_of_shift before employed
  cases turn with
  | call | wake => cases he
  | go step _ _ _ =>
    refine (grown_of_shift after).1 (List.mem_append_right _ (own worker ?_))
    exact (taken_of_step step he).symm

/-- The end of a thread is waited for once word was sent to it. -/
theorem told_of_joined {v w : Service ε} {legs : List (Leg ε)} (run : Shift s may v legs w)
    {leg : Leg ε} (hleg : leg ∈ legs) {worker : Nat} {timeout : Duration} {ended : Bool}
    (he : leg.exchange = some ⟨.join worker timeout, ended⟩) : worker ∈ w.told := by
  obtain ⟨first, last, rfl⟩ := List.append_of_mem hleg
  obtain ⟨m, _, _⟩ := leg
  obtain ⟨v', w', -, turn, after, -⟩ := shift_cut run
  cases turn with
  | call | wake => cases he
  | go _ he' allows _ =>
    cases he.symm.trans he'
    exact (grown_of_shift after).2 allows.1

/-- A thread is one that the monitor started, and word was sent to it. -/
def Service.Told (worker : Nat) (v : Service ε) : Prop := worker ∈ v.workers ∧ worker ∈ v.told

theorem told_of_turn {worker : Nat} {v w : Service ε} {m : Option (Move ε)}
    (turn : Turn s may v m w) (told : v.Told worker) :
    w.Told worker ∧ ∀ move ∈ m, move.thread = worker → move.exchange.isSome := by
  refine ⟨⟨(grown_of_turn turn).1 told.1, (grown_of_turn turn).2 told.2⟩, fun move hm own => ?_⟩
  cases turn with
  | call _ caller _ =>
    cases hm
    subst own
    exact absurd told.1 caller
  | wake _ _ wakes =>
    cases hm
    subst own
    obtain ⟨untold, -⟩ := onWake_eq_some wakes
    exact absurd told.2 (of_decide_eq_false untold)
  | retire | tell => cases hm
  | go _ he _ _ =>
    cases hm
    rw [he]
    rfl

/-- **Word does not get lost.** A thread that word was sent to makes no further pass. -/
theorem occupied_of_told {worker : Nat} {v w : Service ε} {legs : List (Leg ε)}
    (run : Shift s may v legs w) (told : v.Told worker) : Occupied worker legs :=
  (shift_invariant _ _ told_of_turn run told).2

/-! ## Shifts by schedule -/

inductive Duty (ε : Type)
  | call (thread : Nat) (entry : Entry ε)
  | go (thread : Nat) (answers : Answers)
  /-- A thread of the passes wakes up: it makes a pass, or ends. -/
  | wake (worker : Nat)
  /-- Word is sent by the call of a thread. -/
  | tell (thread : Nat)

namespace Service

instance (v : Service ε) : DecidablePred v.Allows
  | ⟨.join worker _, ended⟩ => v.decidableJoins worker ended
  | ⟨.locked _, _⟩ | ⟨.powerState _, _⟩ | ⟨.domid _, _⟩ | ⟨.stop _ _, _⟩ | ⟨.log _, _⟩ =>
    inferInstanceAs (Decidable True)

def isNew (v : Service ε) (worker : Nat) : Bool := worker ∉ v.workers ∧ Ended (v.calls worker)

/-- The turn that a duty makes. What cannot happen changes nothing. -/
def attendOne (s : Settings.Console) (v : Service ε) : Duty ε → Option (Move ε) × Service ε
  | .call thread entry =>
    if thread ∉ v.workers ∧ Ended (v.calls thread) then
      (some ⟨thread, none, []⟩, { v with toProgress := v.setCall thread (entry.call s) })
    else (none, v)
  | .go thread answers =>
    match v.calls thread with
    | .done _ => (none, v)
    | .ask r next =>
      let (a, deeds, after) := answers.serve s v.state r
      let m : Move ε := ⟨thread, some ⟨r, a⟩, deeds⟩
      if v.Allows ⟨r, a⟩ ∧ m.started.all v.isNew then
        (some m, { v with
          toProgress := { v.toProgress with state := after }.setCall thread (next a)
          workers := m.started ++ v.workers })
      else (none, v)
  | .wake worker =>
    if worker ∈ v.workers ∧ Ended (v.calls worker) then
      match onWake (decide (worker ∈ v.told)) with
      | some call => (some ⟨worker, none, []⟩, { v with toProgress := v.setCall worker call })
      | none => (none, { v with ended := worker :: v.ended })
    else (none, v)
  | .tell thread =>
    match v.calls thread with
    | .ask (.join worker _) _ => (none, { v with told := worker :: v.told })
    | _ => (none, v)

def attend (s : Settings.Console) (v : Service ε) : List (Duty ε) → List (Leg ε) × Service ε
  | [] => ([], v)
  | duty :: rest =>
    let (m, w) := v.attendOne s duty
    let later := w.attend s rest
    (m.toList.map (⟨·, v.state, w.state⟩) ++ later.1, later.2)

end Service

def Duty.entry? : Duty ε → Option (Entry ε)
  | .call _ entry => some entry
  | _ => none

theorem shift_attendOne (v : Service ε) (duty : Duty ε)
    (allowed : ∀ entry ∈ duty.entry?, may entry) :
    Shift s may v ((v.attendOne s duty).1.toList.map (⟨·, v.state, (v.attendOne s duty).2.state⟩))
      (v.attendOne s duty).2 := by
  cases duty with
  | call thread entry =>
    simp only [Service.attendOne]
    split
    · rename_i h
      exact shift_of_turn (.call (allowed entry rfl) h.1 (eq_done_of_ended h.2))
    · exact .rest v
  | go thread answers =>
    rcases hc : v.calls thread with _ | ⟨r, next⟩ <;> simp only [Service.attendOne, hc]
    · exact .rest v
    · split
      · rename_i h
        refine shift_of_turn (.go (.go hc (answers.serves s v.state r)) rfl h.1 fun worker hw => ?_)
        have new := List.all_eq_true.1 h.2 worker hw
        simp only [Service.isNew, Bool.decide_and, Bool.and_eq_true, decide_eq_true_eq] at new
        exact ⟨new.1, eq_done_of_ended new.2⟩
      · exact .rest v
  | wake worker =>
    simp only [Service.attendOne]
    split
    · rename_i h
      rcases hw : onWake (decide (worker ∈ v.told)) with _ | call
      · exact shift_of_turn (.retire h.1 (eq_done_of_ended h.2) hw)
      · exact shift_of_turn (.wake h.1 (eq_done_of_ended h.2) hw)
    · exact .rest v
  | tell thread =>
    simp only [Service.attendOne]
    split
    · rename_i h
      exact shift_of_turn (.tell h)
    · exact .rest v

/-- **What is done by duties is a shift.** -/
theorem shift_attend (v : Service ε) (duties : List (Duty ε))
    (allowed : ∀ duty ∈ duties, ∀ entry ∈ duty.entry?, may entry) :
    Shift s may v (v.attend s duties).1 (v.attend s duties).2 := by
  induction duties generalizing v with
  | nil => exact .rest v
  | cons duty rest ih =>
    exact shift_append (shift_attendOne v duty (allowed duty (List.mem_cons_self ..)))
      (ih _ fun duty h => allowed duty (List.mem_cons_of_mem _ h))

end Testbed.Console.Monitor
