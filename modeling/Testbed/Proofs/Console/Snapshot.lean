import Mathlib.Data.List.Nodup
import Testbed.Proofs.Console.Pass
import Testbed.Proofs.Console.Schedule
/-!
# Passes and their snapshots

A pass lists the watches once and then asks subject after subject without the lock, so by the time
it has an answer the watch may be gone, or another one may stand in its place. The numbers of the
watches tell: numbers are never used again (`range_issued`), so whoever carries a number of the
snapshot is the watch that was listed (`Since`).

Main statement: `pass_keeps_to_snapshot`, whatever other calls come in between, a pass asks about
each listed watch once and touches no other.
-/
namespace Testbed.Console.Monitor

open Program

variable {ε : Type} {s : Settings.Console}

/-! ## The snapshot -/

/-- How a state comes after another: a watch with an old number is one that stood then, but for its
recording. -/
structure State.Since (st₀ st : State ε) : Prop where
  grown : st₀.nextId ≤ st.nextId
  stood : ∀ {uuid w}, st.watches.find? uuid = some w → w.id < st₀.nextId →
    ∃ w₀, st₀.watches.find? uuid = some w₀ ∧ w₀.id = w.id ∧ w₀.subject = w.subject ∧
      w₀.host = w.host

theorem since_refl (st : State ε) : st.Since st :=
  ⟨Nat.le_refl _, fun hw _ => ⟨_, hw, rfl, rfl, rfl⟩⟩

theorem since_of_step {st : State ε} {p q : Progress ε} {m : Move ε} (h : Step s p m q)
    (since : st.Since p.state) : st.Since q.state := by
  refine ⟨Nat.le_trans since.grown (nextId_le_of_step h), fun {uuid w} hw old => ?_⟩
  cases leaves_of_step h hw with
  | stood hw => exact since.stood hw old
  | entered hm absent hid placed attempt =>
    have hid : w.id = p.state.nextId := hid
    have := since.grown
    omega
  | settled hm hv found same reconciled =>
    obtain ⟨hid, hsubject, hhost⟩ := reconciled.same
    rw [hid] at old
    obtain ⟨w₀, h₀, hid₀, hsubject₀, hhost₀⟩ := since.stood found old
    exact ⟨w₀, h₀, hid₀.trans hid.symm, hsubject₀.trans hsubject.symm, hhost₀.trans hhost.symm⟩

/-! ## What the other calls leave -/

def Move.settled? (m : Move ε) : Option (Visit ε) :=
  match m.exchange with
  | some ⟨.locked (.settle visit _), _⟩ => some visit
  | _ => none

theorem settled_of_settle {m : Move ε} {visit : Visit ε} {status : Except Fault Status}
    (h : m.exchange = some ⟨.locked (.settle visit status), ()⟩) : m.settled? = some visit := by
  simp only [Move.settled?, h]

/-- A watch that no visit is about is as it was put up. -/
theorem stood_or_entered {p q : Progress ε} {legs : List (Leg ε)} (run : Route s p legs q) {n : Nat}
    (older : ∀ leg ∈ legs, ∀ visit ∈ leg.settled?, visit.id < n) {uuid : String} {w : Watch ε}
    (hw : q.state.watches.find? uuid = some w) (new : n ≤ w.id) :
    p.state.watches.find? uuid = some w ∨ ∃ leg ∈ legs, leg.issued? = some w.id ∧
      leg.uuid? = some uuid ∧ leg.after.watches.find? uuid = some w := by
  induction run with
  | rest p => exact .inl hw
  | @leg p q r m more step _ ih =>
    rcases ih (fun leg hleg => older leg (List.mem_cons_of_mem _ hleg)) hw with hw | entered
    · cases leaves_of_step step hw with
      | stood hw => exact .inl hw
      | entered hm absent hid placed attempt =>
        exact .inr ⟨_, List.mem_cons_self .., by rw [issued_of_enter hm, hid], uuid_of_enter hm, hw⟩
      | @settled visit status w₀ hm hv found same reconciled =>
        have := older _ (List.mem_cons_self ..) visit (settled_of_settle hm)
        have := reconciled.same.1
        omega
    · obtain ⟨leg, hleg, entered⟩ := entered
      exact .inr ⟨leg, List.mem_cons_of_mem _ hleg, entered⟩

/-! ## The pass -/

/-- What a pass of a thread does on a route, told from the state `st` that it listed. -/
structure SnapshotKept (s : Settings.Console) (st : State ε) (thread : Nat) (legs : List (Leg ε))
    (q : Progress ε) : Prop where
  /-- No watch is listed twice. -/
  once : (st.visits.map (·.uuid)).Nodup
  /-- The pass asks about one listed watch after another, each once, and settles each once with what
  it learnt. A pass that has ended has been to all of them. -/
  asked : ∃ more, Visited st.visits (said thread legs ++ more) ∧
    (q.calls thread = .done () → more = [])
  /-- A leg of the pass that changes anything applies what was learnt to a listed watch that is
  still there. -/
  visits : ∀ leg ∈ legs, leg.thread = thread → leg.Visits s st.visits
  /-- What was learnt is applied if the watch still carries the number that it was listed with. -/
  applied : ∀ leg ∈ legs, leg.thread = thread → ∀ visit status w,
    leg.exchange = some ⟨.locked (.settle visit status), ()⟩ →
    leg.before.watches.find? visit.uuid = some w → w.id = visit.id →
    ∃ outcome, Reconciled s w leg.deeds status outcome ∧
      leg.after = leg.before.resolve visit.uuid outcome
  /-- A watch that carries a listed number is the one that was listed. -/
  stood : ∀ leg ∈ legs, st.Since leg.before
  /-- Any other watch is left alone. -/
  spared : ∀ leg ∈ legs, leg.thread = thread → ∀ uuid w, leg.before.watches.find? uuid = some w →
    (∀ visit ∈ st.visits, visit.uuid = uuid → visit.id ≠ w.id) →
    leg.after.watches.find? uuid = some w ∧ (leg.uuid? = some uuid → leg.deeds = [])
  /-- What is not under watch is not put under watch, and nothing is launched for it. -/
  gone : ∀ leg ∈ legs, leg.thread = thread → ∀ uuid, leg.before.watches.find? uuid = none →
    leg.after.watches.find? uuid = none ∧ (leg.uuid? = some uuid → leg.deeds = [])
  /-- If no other pass goes on, a new watch ends up as it was put up. -/
  kept : (∀ leg ∈ legs, leg.thread ≠ thread → leg.settled? = none) →
    ∀ uuid w, q.state.watches.find? uuid = some w → st.nextId ≤ w.id →
      ∃ leg ∈ legs, leg.issued? = some w.id ∧ leg.uuid? = some uuid ∧
        leg.after.watches.find? uuid = some w

/-- A pass settles only what it listed. -/
theorem Leg.Visits.mem_of_settled {visits : List (Visit ε)} {leg : Leg ε} (h : leg.Visits s visits)
    {visit : Visit ε} (settled : leg.settled? = some visit) : visit ∈ visits := by
  cases h with
  | asks hm question =>
    obtain ⟨subject, rfl | rfl⟩ := question <;> simp [Move.settled?, hm] at settled
  | applies hm hv | misses hm hv =>
    rw [settled_of_settle hm, Option.some.injEq] at settled
    exact settled ▸ hv

theorem snapshotKept_of_route {p q : Progress ε} {legs : List (Leg ε)} {thread : Nat}
    (run : Route s p legs q) (occupied : Occupied thread legs) (numbered : p.state.Numbered)
    (visiting : p.calls thread = visitAll p.state.visits) :
    SnapshotKept s p.state thread legs q := by
  obtain ⟨more, _, rest⟩ := exists_run (q.calls thread)
  have asked := runs_said run occupied rest
  rw [visiting] at asked
  have visited := visited_of_visitAll asked
  have visits := visits_of_route run occupied visited
  refine ⟨nodup_visits _, ⟨more, visited, fun ended => ?_⟩, visits,
    fun leg hleg own visit status w hm found same => (visits leg hleg own).applied hm found same,
    fun leg hleg => ?_, fun leg hleg own uuid w hw other => ?_, fun leg hleg own uuid absent => ?_,
    fun alone uuid w hw new => ?_⟩
  · rw [ended] at rest
    exact (runs_done_iff.1 rest).1
  · exact ((route_invariant since_of_step run (since_refl _)).2 leg hleg).1
  · rw [← hw]
    refine (visits leg hleg own).spared fun w' hw' => ?_
    rw [hw, Option.some.injEq] at hw'
    exact hw' ▸ other
  · rw [← absent]
    refine (visits leg hleg own).spared fun w' hw' => ?_
    rw [absent] at hw'
    cases hw'
  · have older : ∀ leg ∈ legs, ∀ visit ∈ leg.settled?, visit.id < p.state.nextId := by
      intro leg hleg visit settled
      by_cases own : leg.thread = thread
      · have listed := (visits leg hleg own).mem_of_settled settled
        obtain ⟨w, hw, hid, -⟩ := mem_visits.1 listed
        exact hid ▸ numbered hw
      · rw [alone leg hleg own] at settled
        cases settled
    rcases stood_or_entered run older hw new with stood | entered
    · have := numbered stood
      omega
    · exact entered

/-- **The snapshot of a pass.** Let a thread take the first step of a pass in any run of a monitor,
and go on with it while other threads add, remove, clean up and reconcile as they like. The pass
keeps to the watches that it listed. The numbers by which it tells them are given out in order, each
once; their last 64 bits differ too as long as there are no more of them than that. -/
theorem pass_keeps_to_snapshot {p q : Progress ε} {thread : Nat} {earlier later : List (Leg ε)}
    {listing : Leg ε} (history : Route s {} earlier p) (begun : p.calls thread = pass)
    (run : Route s p (listing :: later) q) (own : listing.thread = thread)
    (occupied : Occupied thread (listing :: later)) :
    SnapshotKept s p.state thread later q ∧
    (earlier ++ listing :: later).filterMap Leg.issued? = List.range q.state.nextId ∧
    (q.state.nextId ≤ UInt64.size →
      (((earlier ++ listing :: later).filterMap Leg.issued?).map UInt64.ofNat).Nodup) := by
  have numbers := range_issued (route_append history run)
  rw [List.range_zero, List.nil_append] at numbers
  refine ⟨?_, numbers, fun few => ?_⟩
  · have numbered : p.state.Numbered := (route_invariant numbered_of_step history numbered_start).1
    cases run with
    | leg step run =>
      obtain ⟨-, -, same, visiting⟩ :=
        lists_of_step step begun own (occupied _ (List.mem_cons_self ..) own)
      rw [← same] at numbered visiting ⊢
      refine snapshotKept_of_route run (fun leg hleg => ?_) numbered visiting
      exact occupied leg (List.mem_cons_of_mem _ hleg)
  · rw [numbers]
    refine List.Nodup.map_on (fun i hi j hj same => ?_) List.nodup_range
    have hi := Nat.lt_of_lt_of_le (List.mem_range.1 hi) few
    have hj := Nat.lt_of_lt_of_le (List.mem_range.1 hj) few
    rw [← UInt64.toNat_ofNat_of_lt' hi, ← UInt64.toNat_ofNat_of_lt' hj]
    exact congrArg UInt64.toNat same

theorem snapshot_kept_of_meanwhile :
    let run := obey {} (begunPass.setCall 0 (visitAll begunPass.state.visits)) meanwhile
    SnapshotKept {} begunPass.state 0 run.1 run.2 ∧
    (run.2.state.watches.find? "vm").map (fun w => (w.id, w.recording.map (·.domid))) =
      some (1, some 7) :=
  ⟨(pass_keeps_to_snapshot (route_obey {} {} _) calls_begunPass
      (.leg (step_list calls_begunPass) (route_obey {} _ meanwhile)) rfl (by decide +kernel)).1,
    by decide +kernel⟩

end Testbed.Console.Monitor
