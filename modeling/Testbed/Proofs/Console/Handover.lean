import Mathlib.Data.List.Basic
import Testbed.Proofs.Console.Ledger
import Testbed.Proofs.Console.Migration
import Testbed.Proofs.Console.Reconciliation
/-!
# Launches and stops that are still to come

A call that gives up a watch takes its recording along and stops it once it has let go of the lock;
until then the stop is pending, and another call may put up a watch on the same uuid. Main
statements: `launches_perm_pending`, the books at any moment, with the pending stops in them;
`launch_after_stops_iff`, what was launched for a uuid has been stopped when the next process is
launched for it, unless a stop is pending; `not_always_stopped_first`, a stop can be pending.
-/
namespace Testbed.Console

open Program

variable {ε : Type} {s : Settings.Console}

/-! ## Where the launch stands among the dealings -/

/-- A list that ends in its only element of a kind is cut there or not at all. -/
theorem cut_at_last {α : Type} {first before after : List α} {last x : α}
    (h : first ++ [last] = before ++ x :: after) (absent : x ∉ first) : before = first := by
  rcases List.eq_nil_or_concat after with rfl | ⟨rest, y, rfl⟩
  · exact ((List.append_inj' h rfl).1).symm
  · rw [List.concat_eq_append, ← List.cons_append, ← List.append_assoc] at h
    refine absurd ?_ absent
    rw [(List.append_inj' h rfl).1]
    exact List.mem_append_right _ (List.mem_cons_self ..)

theorem Attempt.eq_singleton {place : String} {domid : Nat} {ds : List Dealing}
    {r : Option Recording} (h : Attempt place domid ds r) : ∃ d, ds = [d] := by
  cases h <;> exact ⟨_, rfl⟩

theorem Stopping.not_launch {q : Process} {grace : Duration} {ds : List Dealing}
    (h : Stopping q grace ds) (host : String) (domid : Nat) (log : String)
    (a : Except Failure Process) : .launch host domid log a ∉ ds := by
  cases h <;> simp

/-- What is done before a launch: the recording that is replaced is stopped, from the beginning of
the stop to its end. -/
inductive Cleared (s : Settings.Console) : Option Recording → List Dealing → Prop
  | nothing : Cleared s none []
  | replaced {r : Recording} {exited : Bool} {stops : List Dealing} :
      Stopping r.process s.stopGrace stops →
      Cleared s (some r) (.exitCheck r.process (.ok exited) :: stops)

theorem Cleared.stopped {r : Option Recording} {ds : List Dealing} (h : Cleared s r ds) :
    ds.filterMap Dealing.stopped = (r.map (·.process)).toList := by
  cases h with
  | nothing => rfl
  | replaced stopping => simp [List.filterMap_cons, stopping.booked.2]

theorem Attempt.cleared {place : String} {d : Nat} {ds : List Dealing} {r : Option Recording}
    (h : Attempt place d ds r) {before after : List Dealing} {x : Dealing}
    (cut : ds = before ++ x :: after) : Cleared s none before := by
  obtain ⟨y, rfl⟩ := h.eq_singleton
  have nothing : before = [] := cut_at_last cut List.not_mem_nil
  rw [nothing]
  exact .nothing

/-- A reconciliation launches after it has stopped. -/
theorem Reconciled.cleared {w : Watch ε} {deeds : List (Exchange (Device.interface ε))}
    {status : Except Fault Status} {outcome : Option (Watch ε)}
    (h : Reconciled s w deeds status outcome) {before after : List Dealing} {host log : String}
    {domid : Nat} {a : Except Failure Process}
    (cut : dealings deeds = before ++ .launch host domid log a :: after) :
    Cleared s w.recording before := by
  have launch : .launch host domid log a ∈ dealings deeds := by
    rw [cut]
    exact List.mem_append_right _ (List.mem_cons_self ..)
  cases h with
  | unknown fault hd | waiting _ _ hd | unchecked _ _ _ hd | kept _ _ hd => simp [hd] at launch
  | ended _ released =>
    rcases hr : w.recording with _ | r <;> rw [hr] at released
    · have none_done : dealings deeds = [] := released
      simp [none_done] at launch
    · exact absurd launch (Stopping.not_launch released _ _ _ _)
  | begun _ hw _ attempt =>
    rw [hw]
    exact attempt.cleared cut
  | lost _ _ hd stopping =>
    rw [hd, List.mem_cons] at launch
    rcases launch with check | launch
    · cases check
    · exact absurd launch (stopping.not_launch _ _ _ _)
  | @replaced _ _ r exited stops starts _ _ _ hw _ hd stopping _ attempt =>
    obtain ⟨d, rfl⟩ := attempt.eq_singleton
    rw [hd, ← List.cons_append] at cut
    have absent : .launch host domid log a ∉ .exitCheck r.process (.ok exited) :: stops := by
      rw [List.mem_cons, not_or]
      exact ⟨nofun, stopping.not_launch _ _ _ _⟩
    rw [cut_at_last cut absent, hw]
    exact .replaced stopping

namespace Monitor

/-! ## Pending stops -/

/-- The recordings that were handed over to calls and not stopped by them yet. -/
def pending (moves : List (Move ε)) : List (String × Recording) :=
  (handovers moves).diff (returns moves)

/-- A list that has no more than another under any key has no more at all. -/
theorem subperm_of_under {κ β : Type} [DecidableEq κ] [DecidableEq β] {ps qs : List (κ × β)}
    (h : ∀ k, (under k ps).Subperm (under k qs)) : ps.Subperm qs := by
  refine List.subperm_ext_iff.2 fun ⟨k, b⟩ _ => ?_
  rw [← count_under, ← count_under]
  exact (h k).count_le b

/-- No call stops a recording that it was not handed. -/
theorem returns_subperm {p : Progress ε} {ms : List (Move ε)} (run : Steps s {} ms p) :
    (returns ms).Subperm (handovers ms) := by
  have byThread : (returnsBy ms).Subperm (handoversBy ms) := by
    refine subperm_of_under fun thread => ?_
    obtain ⟨owed, -, same⟩ := owes_of_steps run thread (owes_done ())
    rw [List.nil_append] at same
    rw [same]
    exact (List.sublist_append_left _ _).subperm
  have forget (f : Move ε → List (String × Recording)) :
      (ms.flatMap fun m => (f m).map (m.thread, ·)).map Prod.snd = ms.flatMap f := by
    simp [List.map_flatMap, Function.comp_def]
  obtain ⟨some, perm, sub⟩ := byThread
  have perm := perm.map Prod.snd
  have sub := sub.map Prod.snd
  rw [returnsBy, forget] at perm
  rw [handoversBy, forget] at sub
  exact ⟨_, perm, sub⟩

theorem handovers_perm_pending {p : Progress ε} {ms : List (Move ε)} (run : Steps s {} ms p) :
    (returns ms ++ pending ms).Perm (handovers ms) :=
  List.subperm_append_diff_self_of_count_le fun r _ => (returns_subperm run).count_le r

/-- **The books of a uuid at any moment.** What was launched has been stopped, waits to be stopped
by the call that it was handed over to, or records the uuid. -/
theorem launches_perm_pending {p : Progress ε} {ms : List (Move ε)} (run : Steps s {} ms p)
    (uuid : String) :
    (under uuid (launches ms)).Perm
      (under uuid (stops ms) ++ under uuid (processes (pending ms)) ++
        (p.state.attached uuid).toList) := by
  have balance := balance_of_steps run uuid
  have same : (under uuid (processes (returns ms)) ++ under uuid (processes (pending ms))).Perm
      (under uuid (processes (handovers ms))) := by
    rw [← under_append, processes, processes, ← List.map_append]
    exact ((handovers_perm_pending run).map _).filterMap _
  have nothing : ({} : State ε).attached uuid = none := rfl
  refine List.perm_iff_count.2 fun x => ?_
  have balance := balance.count_eq x
  have same := same.count_eq x
  simp only [nothing, Option.toList_none, List.nil_append, List.count_append] at balance same ⊢
  omega

/-! ## At a launch -/

/-- Where a step launches a process for a uuid, it has stopped the one that recorded the uuid. -/
theorem cleared_of_step {p q : Progress ε} {m : Move ε} (h : Step s p m q) {uuid : String}
    (own : m.uuid? = some uuid) {before after : List Dealing} {host log : String} {domid : Nat}
    {a : Except Failure Process}
    (cut : dealings m.deeds = before ++ .launch host domid log a :: after) :
    ∃ r, Cleared s r before ∧ p.state.attached uuid = r.map (·.process) := by
  cases h with
  | start => cases own
  | @go thread request next answer deeds state asks serves =>
    cases serves with
    | locked run =>
      cases performed_of_runs run with
      | @entered name subject host domid deeds place r absent placed attempt =>
        obtain rfl : name = uuid := Option.some.inj own
        exact ⟨none, attempt.cleared cut, by simp [State.attached, absent]⟩
      | @settled visit status w deeds outcome found same reconciled =>
        obtain rfl : visit.uuid = uuid := Option.some.inj own
        exact ⟨w.recording, reconciled.cleared cut, by simp [State.attached, found]⟩
      | present | outdated => simp at cut
      | _ => cases own
    | @stop name r deeds run =>
      have launch : .launch host domid log a ∈ dealings deeds := by
        rw [cut]
        exact List.mem_append_right _ (List.mem_cons_self ..)
      exact absurd launch ((stopping_of_stopRecording run).not_launch _ _ _ _)
    | _ => cases own

/-- Every process launched for a uuid in `ms` has been stopped, in `ms` or by what is done next. -/
def AllStopped (uuid : String) (ms : List (Move ε)) (next : List Dealing) : Prop :=
  (under uuid (launches ms)).Subperm (under uuid (stops ms) ++ next.filterMap Dealing.stopped)

theorem allStopped_iff {uuid : String} {ms : List (Move ε)} {next : List Dealing}
    (books : (under uuid (launches ms)).Perm
      (under uuid (stops ms) ++ next.filterMap Dealing.stopped ++
        under uuid (processes (pending ms)))) :
    AllStopped uuid ms next ↔ under uuid (pending ms) = [] := by
  have length := books.length_eq
  rw [List.length_append, under_processes, List.length_map] at length
  constructor
  · intro stopped
    have := stopped.length_le
    exact List.length_eq_zero_iff.1 (by omega)
  · intro nothing
    rw [under_processes, nothing, List.map_nil, List.append_nil] at books
    exact books.subperm

/-- The books of a uuid where a process is launched for it. -/
theorem books_of_launch {q : Progress ε} {earlier later : List (Leg ε)} {leg : Leg ε}
    {uuid host log : String} {domid : Nat} {a : Except Failure Process}
    {before after : List Dealing} (run : Route s {} (earlier ++ leg :: later) q)
    (own : leg.uuid? = some uuid)
    (cut : dealings leg.deeds = before ++ .launch host domid log a :: after) :
    (∃ r, Cleared s r before ∧ leg.before.attached uuid = r.map (·.process)) ∧
    (under uuid (launches (moves earlier))).Perm
      (under uuid (stops (moves earlier)) ++ before.filterMap Dealing.stopped ++
        under uuid (processes (pending (moves earlier)))) := by
  obtain ⟨p, history, run⟩ := route_split run
  cases run with
  | leg step run =>
    obtain ⟨r, cleared, attached⟩ := cleared_of_step step own cut
    have books := launches_perm_pending (steps_of_route history) uuid
    rw [attached, ← cleared.stopped] at books
    refine ⟨⟨r, cleared, attached⟩, List.perm_iff_count.2 fun x => ?_⟩
    have books := books.count_eq x
    simp only [List.count_append] at books ⊢
    omega

/-- **Stopped before the next is launched.** In any interleaving of calls, take a launch for a uuid.
What was launched for the uuid before has been stopped by then, or waits to be stopped by a call
that it was handed over to; the recording that the launch replaces is stopped from beginning to end
before it. So all of it has been stopped exactly if no stop is pending for the uuid. -/
theorem launch_after_stops_iff {q : Progress ε} {earlier later : List (Leg ε)} {leg : Leg ε}
    {uuid host log : String} {domid : Nat} {process : Process} {before after : List Dealing}
    (run : Route s {} (earlier ++ leg :: later) q) (own : leg.uuid? = some uuid)
    (launch : dealings leg.deeds = before ++ .launch host domid log (.ok process) :: after) :
    (∃ r, Cleared s r before ∧ leg.before.attached uuid = r.map (·.process)) ∧
    (under uuid (launches (moves earlier))).Perm
      (under uuid (stops (moves earlier)) ++ before.filterMap Dealing.stopped ++
        under uuid (processes (pending (moves earlier)))) ∧
    (AllStopped uuid (moves earlier) before ↔ under uuid (pending (moves earlier)) = []) := by
  obtain ⟨cleared, books⟩ := books_of_launch run own launch
  exact ⟨cleared, books, allStopped_iff books⟩

/-! ## Two runs that launch again -/

def lastLeg (orders : List (Order Unit)) (goes : (obey {} {} orders).1 ≠ []) : Leg Unit :=
  (obey {} {} orders).1.getLast goes

theorem route_lastLeg {orders : List (Order Unit)} (goes : (obey {} {} orders).1 ≠ []) :
    Route {} {} ((obey {} {} orders).1.dropLast ++ lastLeg orders goes :: [])
      (obey {} {} orders).2 := by
  rw [lastLeg, List.dropLast_concat_getLast]
  exact route_obey {} {} orders

/-- A launch among dealings is somewhere in them. -/
theorem exists_cut {ds : List Dealing} {process : Process}
    (h : process ∈ ds.filterMap Dealing.launched) :
    ∃ before host domid log after,
      ds = before ++ .launch host domid log (.ok process) :: after := by
  obtain ⟨d, hd, launched⟩ := List.mem_filterMap.1 h
  obtain ⟨before, after, cut⟩ := List.append_of_mem hd
  match d with
  | .launch host domid log (.ok p) =>
    obtain rfl : p = process := Option.some.inj launched
    exact ⟨before, host, domid, log, after, cut⟩
  | .launch _ _ _ (.error _) | .unopened _ | .exitCheck _ _ | .terminate _ _ | .waitExit _ _ _
  | .kill _ _ => cases launched

def changed : List (Order Unit) := added ++ .call 0 .pass :: domainChanged

theorem stopped_of_changed :
    let last := lastLeg changed (List.cons_ne_nil _ _)
    ∃ before host domid log after,
      dealings last.deeds = before ++ .launch host domid log (.ok ⟨3, 102⟩) :: after ∧
      under "vm" (launches (moves (obey {} {} changed).1.dropLast)) = [⟨1, 100⟩] ∧
      AllStopped "vm" (moves (obey {} {} changed).1.dropLast) before := by
  have launched : (⟨3, 102⟩ : Process) ∈
      (dealings (lastLeg changed (List.cons_ne_nil _ _)).deeds).filterMap Dealing.launched := by
    decide +kernel
  obtain ⟨before, host, domid, log, after, cut⟩ := exists_cut launched
  refine ⟨before, host, domid, log, after, cut, by decide +kernel, ?_⟩
  have run := @route_lastLeg changed (List.cons_ne_nil _ _)
  exact (launch_after_stops_iff run (by decide +kernel) cut).2.2.2 (by decide +kernel)

/-- A uuid is removed by one thread, and added again by another before the first thread has come to
stop the old recording. -/
def overtaken : List (Order Unit) :=
  added ++ [.call 1 (.remove "vm"), .go 1 {}, .call 0 (.add "vm" () none), .go 0 {}, .go 0 {},
    .go 0 { domid := .ok (some 7) }, .go 0 { launch := .ok ⟨2, 101⟩ }]

/-- The stop of what was launched before may be pending, although nothing fails. -/
theorem not_always_stopped_first :
    ¬ ∀ {q : Progress Unit} {earlier later : List (Leg Unit)} {leg : Leg Unit}
      {uuid host log : String} {domid : Nat} {process : Process} {before after : List Dealing},
      Route {} {} (earlier ++ leg :: later) q → leg.uuid? = some uuid →
      dealings leg.deeds = before ++ .launch host domid log (.ok process) :: after →
      (∀ l ∈ earlier ++ leg :: later, ∀ d ∈ dealings l.deeds, d.succeeded) →
      AllStopped uuid (moves earlier) before := by
  intro promised
  have run := @route_lastLeg overtaken (List.cons_ne_nil _ _)
  have launched : (⟨2, 101⟩ : Process) ∈
      (dealings (lastLeg overtaken (List.cons_ne_nil _ _)).deeds).filterMap Dealing.launched := by
    decide +kernel
  have own : (lastLeg overtaken (List.cons_ne_nil _ _)).uuid? = some "vm" := by decide +kernel
  obtain ⟨before, host, domid, log, after, cut⟩ := exists_cut launched
  have stopped := promised run own cut (by decide +kernel)
  have nothing := (allStopped_iff (books_of_launch run own cut).2).1 stopped
  have waiting : under "vm" (pending (moves (obey {} {} overtaken).1.dropLast)) ≠ [] := by
    decide +kernel
  exact waiting nothing

end Monitor

end Testbed.Console
