import Testbed.Proofs.Console.Pass
import Testbed.Proofs.Console.Schedule
/-!
# A pass that nothing comes between

Left alone, a pass takes every watch through one transition of the state machine `Reconciled`: the
subject is asked, and what was learnt is applied to the watch that stood when the pass began.

Main statements: `pass_ends`, a pass comes to its end; `pass_reconciles_each`, each watch goes
through its transition by then and nothing else is done about its uuid; what is not under watch
stays so.
-/
namespace Testbed.Console.Monitor

open Program

variable {ε : Type} {s : Settings.Console}

/-! ## Routes of one thread -/

/-- All legs are of one thread, in the middle of one call. -/
def Alone (thread : Nat) (legs : List (Leg ε)) : Prop :=
  ∀ leg ∈ legs, leg.thread = thread ∧ leg.exchange.isSome

instance (thread : Nat) (legs : List (Leg ε)) : Decidable (Alone thread legs) :=
  inferInstanceAs (Decidable (∀ leg ∈ legs, leg.thread = thread ∧ leg.exchange.isSome))

/-- A call goes on with its next request. -/
theorem route_ask {p q : Progress ε} {thread : Nat} {legs : List (Leg ε)} {r : Request ε}
    {next : Answer ε r → Call ε Unit} (run : Route s p legs q) (alone : Alone thread legs)
    (doing : p.calls thread = .ask r next) (ended : q.calls thread = .done ()) :
    ∃ m rest mid a, legs = ⟨m, p.state, mid.state⟩ :: rest ∧ Step s p m mid ∧
      m.exchange = some ⟨r, a⟩ ∧ mid.calls thread = next a ∧ Route s mid rest q := by
  cases run with
  | rest =>
    rw [doing] at ended
    cases ended
  | @leg _ mid _ m rest step run =>
    obtain ⟨own, goes⟩ := alone _ (List.mem_cons_self ..)
    cases step with
    | start => cases goes
    | go call serves =>
      obtain rfl : _ = thread := own
      rw [doing] at call
      cases call
      exact ⟨_, rest, _, _, rfl, .go doing serves, rfl, if_pos rfl, run⟩

/-- A call can always be gone through with. -/
theorem exists_route_done (s : Settings.Console) (p : Progress ε) (thread : Nat) :
    ∃ legs q, Route s p legs q ∧ Alone thread legs ∧ q.calls thread = .done () := by
  induction doing : p.calls thread generalizing p with
  | done => exact ⟨[], p, .rest p, by simp [Alone], doing⟩
  | ask r next ih =>
    have serves := Answers.serves {} s p.state r
    obtain ⟨legs, q, run, alone, ended⟩ :=
      ih _ (Progress.setCall ⟨_, p.calls⟩ thread _) (if_pos rfl)
    refine ⟨_, q, .leg (.go doing serves) run, fun leg hleg => ?_, ended⟩
    rcases List.mem_cons.1 hleg with rfl | hleg
    · exact ⟨rfl, rfl⟩
    · exact alone leg hleg

theorem length_said {thread : Nat} {legs : List (Leg ε)} (alone : Alone thread legs) :
    (said thread legs).length = legs.length := by
  induction legs with
  | nil => rfl
  | cons leg legs ih =>
    obtain ⟨own, goes⟩ := alone leg (List.mem_cons_self ..)
    obtain ⟨e, he⟩ := Option.isSome_iff_exists.1 goes
    have later := ih fun leg hleg => alone leg (List.mem_cons_of_mem _ hleg)
    rw [said_cons own he, List.length_cons, List.length_cons, later]

/-- **A pass ends.** It takes at most three steps for each watch, and wherever it is, it can go on
to its end. -/
theorem pass_ends {p q : Progress ε} {thread : Nat} {legs : List (Leg ε)}
    (begun : p.calls thread = pass) (run : Route s p legs q) (alone : Alone thread legs) :
    legs.length ≤ 3 * p.state.visits.length + 1 ∧
    ∃ more r, Route s q more r ∧ Alone thread more ∧ r.calls thread = .done () := by
  refine ⟨?_, exists_route_done s q thread⟩
  cases run with
  | rest => exact Nat.zero_le _
  | @leg _ mid _ m later step run =>
    obtain ⟨own, goes⟩ := alone _ (List.mem_cons_self ..)
    obtain ⟨-, -, -, visiting⟩ := lists_of_step step begun own goes
    have alone : Alone thread later := fun leg hleg => alone leg (List.mem_cons_of_mem _ hleg)
    obtain ⟨more, _, rest⟩ := exists_run (q.calls thread)
    have asked := runs_said run (fun leg hleg _ => (alone leg hleg).2) rest
    rw [visiting] at asked
    have few := (visited_of_visitAll asked).length_le
    rw [List.length_append, length_said alone] at few
    rw [List.length_cons]
    omega

/-- Two parts of a call make two parts of the route. -/
theorem route_bind {α : Type} {call : Call ε α} {f : α → Call ε Unit} {p q : Progress ε}
    {thread : Nat} {legs : List (Leg ε)} (run : Route s p legs q) (alone : Alone thread legs)
    (doing : p.calls thread = call >>= f) (ended : q.calls thread = .done ()) :
    ∃ first second mid a, legs = first ++ second ∧ Route s p first mid ∧ Route s mid second q ∧
      mid.calls thread = f a ∧ Runs call (said thread first) a := by
  induction call generalizing p legs with
  | done a => exact ⟨[], legs, p, a, rfl, .rest p, run, doing, .done a⟩
  | ask r next ih =>
    obtain ⟨m, rest, p', a, rfl, step, hm, doing', run'⟩ := route_ask run alone doing ended
    obtain ⟨first, second, mid, b, rfl, run₁, run₂, doing₂, ran⟩ :=
      ih a run' (fun leg hleg => alone leg (List.mem_cons_of_mem _ hleg)) doing'
    refine ⟨_ :: first, second, mid, b, rfl, .leg step run₁, run₂, doing₂, ?_⟩
    rw [said_cons (alone _ (List.mem_cons_self ..)).1 hm]
    exact .ask ran

/-- Asking changes nothing. -/
theorem idle_of_learnt {p q : Progress ε} {thread : Nat} {legs : List (Leg ε)}
    (run : Route s p legs q) (alone : Alone thread legs) {subject : ε}
    {status : Except Fault Status} (learnt : Learnt subject (said thread legs) status) :
    ∀ leg ∈ legs, leg.uuid? = none ∧ leg.deeds = [] ∧ leg.after = leg.before := by
  intro leg hleg
  have occupied : Occupied thread legs := fun leg hleg _ => (alone leg hleg).2
  -- no visit is settled yet, so nothing can have been applied
  have visits := visits_of_asks run occupied (asksOf_of_learnt learnt [])
  cases visits leg hleg (alone leg hleg).1 with
  | asks hm question quiet same => exact ⟨uuid_of_question hm question, quiet, same⟩
  | applies _ hv | misses _ hv => cases hv

/-! ## Every watch once -/

/-- What a route does about a uuid whose watch is `w` when it begins: its subject is asked once,
what was learnt takes the watch through one transition, and that is all. -/
def ReconciledOnce (s : Settings.Console) (thread : Nat) (uuid : String) (w : Watch ε)
    (legs : List (Leg ε)) (q : Progress ε) : Prop :=
  ∃ first asked settling later status outcome, legs = first ++ asked ++ settling :: later ∧
    Learnt w.subject (said thread asked) status ∧
    (∀ leg ∈ asked, leg.deeds = [] ∧ leg.after = leg.before) ∧
    settling.before.watches.find? uuid = some w ∧ Reconciled s w settling.deeds status outcome ∧
    settling.after.watches.find? uuid = outcome ∧ q.state.watches.find? uuid = outcome ∧
    ∀ leg ∈ first ++ asked ++ later, leg.uuid? ≠ some uuid ∧
      leg.after.watches.find? uuid = leg.before.watches.find? uuid

theorem ReconciledOnce.after {thread : Nat} {uuid : String} {w : Watch ε} {legs : List (Leg ε)}
    {q : Progress ε} (h : ReconciledOnce s thread uuid w legs q) {before : List (Leg ε)}
    (others : ∀ leg ∈ before, leg.uuid? ≠ some uuid ∧
      leg.after.watches.find? uuid = leg.before.watches.find? uuid) :
    ReconciledOnce s thread uuid w (before ++ legs) q := by
  obtain ⟨first, asked, settling, later, status, outcome, rfl, learnt, quiet, found, reconciled,
    settled, last, rest⟩ := h
  refine ⟨before ++ first, asked, settling, later, status, outcome, by simp, learnt, quiet, found,
    reconciled, settled, last, fun leg hleg => ?_⟩
  rw [List.append_assoc, List.append_assoc, List.mem_append, ← List.append_assoc] at hleg
  rcases hleg with hleg | hleg
  · exact others leg hleg
  · exact rest leg hleg

/-- What a pass does not visit it leaves alone. -/
theorem unvisited_of_visitAll {p q : Progress ε} {thread : Nat} {legs : List (Leg ε)}
    {visits : List (Visit ε)} (run : Route s p legs q) (alone : Alone thread legs)
    (visiting : p.calls thread = visitAll visits) {uuid : String}
    (unvisited : uuid ∉ visits.map (·.uuid)) :
    ∀ leg ∈ legs, leg.uuid? ≠ some uuid ∧
      leg.after.watches.find? uuid = leg.before.watches.find? uuid := by
  have occupied : Occupied thread legs := fun leg hleg _ => (alone leg hleg).2
  obtain ⟨more, _, rest⟩ := exists_run (q.calls thread)
  have asked := runs_said run occupied rest
  rw [visiting] at asked
  intro leg hleg
  have leg_visits := visits_of_route run occupied (visited_of_visitAll asked) leg hleg
    (alone leg hleg).1
  have other : ∀ visit ∈ visits, visit.uuid ≠ uuid := fun visit hv same =>
    unvisited (List.mem_map.2 ⟨visit, hv, same⟩)
  refine ⟨fun own => ?_, ?_⟩
  · obtain ⟨visit, hv, same⟩ := leg_visits.uuid_mem own
    exact other visit hv same
  · exact (leg_visits.spared fun _ _ visit hv same => absurd same (other visit hv)).1

/-- The watches of a list of visits go through their transitions one after another. -/
theorem reconciledOnce_of_visitAll {p q : Progress ε} {thread : Nat} {legs : List (Leg ε)}
    {visits : List (Visit ε)} (run : Route s p legs q) (alone : Alone thread legs)
    (visiting : p.calls thread = visitAll visits) (ended : q.calls thread = .done ())
    (distinct : (visits.map (·.uuid)).Nodup) {visit : Visit ε} (hv : visit ∈ visits) {w : Watch ε}
    (found : p.state.watches.find? visit.uuid = some w) (same : w.id = visit.id)
    (subject : w.subject = visit.subject) : ReconciledOnce s thread visit.uuid w legs q := by
  induction visits generalizing p legs with
  | nil => cases hv
  | cons head visits ih =>
    obtain ⟨fresh, distinct⟩ := List.nodup_cons.1 distinct
    obtain ⟨asked, _, mid, status, rfl, asking, run₂, doing, ran⟩ :=
      route_bind run alone visiting ended
    have learnt := learnt_of_query ran
    have alone₁ := fun leg hleg => alone leg (List.mem_append_left _ hleg)
    have idle := idle_of_learnt asking alone₁ learnt
    have still : mid.state = p.state := route_frame asking id fun leg hleg => (idle leg hleg).2.2
    have alone₂ := fun leg hleg => alone leg (List.mem_append_right asked hleg)
    obtain ⟨m, later, mid', _, rfl, step, hm, doing', run₃⟩ := route_ask run₂ alone₂ doing ended
    have alone₃ : Alone thread later := fun leg hleg => alone₂ leg (List.mem_cons_of_mem _ hleg)
    have settles : Leg.Visits s [head] ⟨m, mid.state, mid'.state⟩ :=
      visits_of_step step hm (List.mem_singleton_self _)
    have unconcerned : ∀ leg ∈ asked, leg.uuid? ≠ some visit.uuid ∧
        leg.after.watches.find? visit.uuid = leg.before.watches.find? visit.uuid := by
      intro leg hleg
      obtain ⟨nobody, -, unchanged⟩ := idle leg hleg
      exact ⟨by simp [nobody], by rw [unchanged]⟩
    rcases List.mem_cons.1 hv with rfl | hv
    · -- the visit at hand
      rw [← still] at found
      obtain ⟨outcome, reconciled, after⟩ := settles.applied hm found same
      have outcome_after : mid'.state.watches.find? visit.uuid = outcome := by
        change mid'.state = _ at after
        rw [after, find?_resolve, if_pos rfl]
      have elsewhere := unvisited_of_visitAll run₃ alone₃ doing' fresh
      have last := route_frame run₃ (·.watches.find? visit.uuid)
        fun leg hleg => (elsewhere leg hleg).2
      refine ⟨[], asked, _, later, status, outcome, rfl, subject ▸ learnt,
        fun leg hleg => (idle leg hleg).2, found, reconciled, outcome_after,
        last.trans outcome_after, fun leg hleg => ?_⟩
      rcases List.mem_append.1 hleg with hleg | hleg
      · exact unconcerned leg hleg
      · exact elsewhere leg hleg
    · -- a later visit
      have other : head.uuid ≠ visit.uuid := fun h => fresh (List.mem_map.2 ⟨visit, hv, h.symm⟩)
      have apart : mid'.state.watches.find? visit.uuid = mid.state.watches.find? visit.uuid :=
        (settles.spared fun _ _ v hv' h => by
          rw [List.mem_singleton.1 hv'] at h
          exact absurd h other).1
      rw [← still, ← apart] at found
      have once := ih run₃ alone₃ doing' distinct hv found
      rw [← List.singleton_append, ← List.append_assoc]
      refine once.after fun leg hleg => ?_
      rcases List.mem_append.1 hleg with hleg | hleg
      · exact unconcerned leg hleg
      · obtain rfl := List.mem_singleton.1 hleg
        refine ⟨?_, apart⟩
        rw [uuid_of_settle hm]
        simpa using other

/-- **Reconciliation.** A pass that no other call comes between asks the subject of every watch once
and takes the watch through one transition of `Reconciled`, whatever the subjects, the processes and
the launcher answer. Trouble leaves a watch as it is; a terminal subject is stopped and given up; a
watch without a recording gets one if there is a domain, and an attempt is made once; a recording
stays if its process runs and its domain is the one reported, and is otherwise stopped before the
next is begun. What is not under watch stays so. -/
theorem pass_reconciles_each {p q : Progress ε} {thread : Nat} {legs : List (Leg ε)}
    (begun : p.calls thread = pass) (run : Route s p legs q) (alone : Alone thread legs)
    (ended : q.calls thread = .done ()) (uuid : String) :
    (∀ w, p.state.watches.find? uuid = some w → ReconciledOnce s thread uuid w legs q) ∧
    (p.state.watches.find? uuid = none →
      q.state.watches.find? uuid = none ∧ ∀ leg ∈ legs, leg.uuid? ≠ some uuid) := by
  obtain ⟨m, later, mid, visits, rfl, step, hm, -, run⟩ := route_ask run alone begun ended
  obtain ⟨own, goes⟩ := alone _ (List.mem_cons_self ..)
  obtain ⟨-, -, same, visiting⟩ := lists_of_step step begun own goes
  have alone : Alone thread later := fun leg hleg => alone leg (List.mem_cons_of_mem _ hleg)
  have listing : m.uuid? = none := by simp only [Move.uuid?, hm]
  refine ⟨fun w hw => ?_, fun absent => ?_⟩
  · have hv : (⟨uuid, w.id, w.subject⟩ : Visit ε) ∈ p.state.visits := mem_visits.2 ⟨w, hw, rfl, rfl⟩
    have found : mid.state.watches.find? uuid = some w := by rwa [same]
    have once :=
      reconciledOnce_of_visitAll run alone visiting ended (nodup_visits _) hv found rfl rfl
    rw [← List.singleton_append]
    refine once.after fun leg hleg => ?_
    obtain rfl := List.mem_singleton.1 hleg
    exact ⟨by simp [listing], by rw [same]⟩
  · have unvisited : uuid ∉ p.state.visits.map (·.uuid) := by
      intro h
      obtain ⟨visit, hv, rfl⟩ := List.mem_map.1 h
      obtain ⟨w, hw, -⟩ := mem_visits.1 hv
      rw [absent] at hw
      cases hw
    have elsewhere := unvisited_of_visitAll run alone visiting unvisited
    have last := route_frame run (·.watches.find? uuid) fun leg hleg => (elsewhere leg hleg).2
    refine ⟨last.trans (by rw [same, absent]), fun leg hleg => ?_⟩
    rcases List.mem_cons.1 hleg with rfl | hleg
    · simp [listing]
    · exact (elsewhere leg hleg).1

def domainChanged : List (Order Unit) :=
  [.go 0 {}, .go 0 {}, .go 0 { domid := .ok (some 8) }, .go 0 { launch := .ok ⟨3, 102⟩ }]

theorem reconciled_of_domainChanged :
    let run := obey {} begunPass domainChanged
    (∃ w, begunPass.state.watches.find? "vm" = some w ∧
      ReconciledOnce {} 0 "vm" w run.1 run.2) ∧
    ((run.2.state.watches.find? "vm").bind (·.recording)).map (fun r => (r.domid, r.process)) =
      some (8, ⟨3, 102⟩) := by
  refine ⟨?_, by decide +kernel⟩
  have watched : (begunPass.state.watches.find? "vm").isSome := by decide +kernel
  obtain ⟨w, hw⟩ := Option.isSome_iff_exists.1 watched
  exact ⟨w, hw, (pass_reconciles_each calls_begunPass (route_obey {} _ _) (by decide +kernel)
    (eq_done_of_ended (by decide +kernel)) "vm").1 w hw⟩

end Testbed.Console.Monitor
