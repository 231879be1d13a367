import Testbed.Proofs.Console.Route
/-!
# What a pass says

A reconciliation pass asks one subject after another and settles each with what it learnt. `Learnt`
lists what can be said to a subject, `Visited` strings the visits together, and `Leg.Visits` lists
what a leg of a pass can do to the monitor.

Main statements: `learnt_of_query` and `visited_of_visitAll`, what is said is on the lists;
`visits_of_step`, a leg of a pass asks, applies what was learnt to the watch that was asked about,
or changes nothing.
-/
namespace Testbed.Console.Monitor

open Program

variable {ε : Type} {s : Settings.Console}

/-! ## What is visited -/

theorem mem_visits {st : State ε} {visit : Visit ε} :
    visit ∈ st.visits ↔
      ∃ w, st.watches.find? visit.uuid = some w ∧ w.id = visit.id ∧ w.subject = visit.subject := by
  rw [State.visits, List.mem_map]
  constructor
  · rintro ⟨⟨uuid, w⟩, hw, rfl⟩
    exact ⟨w, Registry.find?_eq_some.2 hw, rfl, rfl⟩
  · rintro ⟨w, hw, hid, hsubject⟩
    refine ⟨(visit.uuid, w), Registry.find?_eq_some.1 hw, ?_⟩
    simp [hid, hsubject]

theorem nodup_visits (st : State ε) : (st.visits.map (·.uuid)).Nodup := by
  rw [State.visits, List.map_map]
  exact st.watches.distinct

/-! ## What is said -/

/-- What is said to a subject, and what is learnt by it. The domain is only asked for while the
subject lives. -/
inductive Learnt (subject : ε) : List (Exchange (interface ε)) → Except Fault Status → Prop
  | silent (fault : Fault) : Learnt subject [⟨.powerState subject, .error fault⟩] (.error fault)
  | ended {state : PowerState} :
      state.isTerminal → Learnt subject [⟨.powerState subject, .ok state⟩] (.ok ⟨state, none⟩)
  | unplaced {state : PowerState} (fault : Fault) :
      ¬ state.isTerminal →
      Learnt subject [⟨.powerState subject, .ok state⟩, ⟨.domid subject, .error fault⟩]
        (.error fault)
  | live {state : PowerState} (domid : Option Nat) :
      ¬ state.isTerminal →
      Learnt subject [⟨.powerState subject, .ok state⟩, ⟨.domid subject, .ok domid⟩]
        (.ok ⟨state, domid⟩)

theorem runs_request {r : Request ε} {t : List (Exchange (interface ε))} {a : Answer ε r} :
    Runs (Program.request (I := interface ε) r) t a ↔ t = [⟨r, a⟩] :=
  runs_request_iff (I := interface ε)

theorem learnt_of_query {subject : ε} {t : List (Exchange (interface ε))}
    {status : Except Fault Status} (h : Runs (query subject) t status) :
    Learnt subject t status := by
  unfold query at h
  obtain ⟨_, t₂, state, rfl, h₁, h₂⟩ := runs_bind.1 h
  obtain rfl := runs_request.1 h₁
  rcases state with fault | state
  · obtain ⟨rfl, rfl⟩ := runs_pure_iff.1 h₂
    exact .silent fault
  by_cases terminal : state.isTerminal
  · simp only [terminal, ↓reduceIte] at h₂
    obtain ⟨rfl, rfl⟩ := runs_pure_iff.1 h₂
    exact .ended terminal
  simp only [terminal, Bool.false_eq_true, ↓reduceIte] at h₂
  obtain ⟨_, t₃, domid, rfl, h₃, h₄⟩ := runs_bind.1 h₂
  obtain rfl := runs_request.1 h₃
  rcases domid with fault | domid <;> obtain ⟨rfl, rfl⟩ := runs_pure_iff.1 h₄
  · exact .unplaced fault terminal
  · exact .live domid terminal

theorem runs_of_learnt {subject : ε} {t : List (Exchange (interface ε))}
    {status : Except Fault Status} (h : Learnt subject t status) :
    Runs (query subject) t status := by
  unfold query
  cases h with
  | silent fault => exact runs_bind.2 ⟨[_], [], _, rfl, runs_request.2 rfl, .done _⟩
  | ended terminal =>
    refine runs_bind.2 ⟨[_], [], _, rfl, runs_request.2 rfl, ?_⟩
    simp only [terminal, ↓reduceIte]
    exact .done _
  | unplaced fault live =>
    refine runs_bind.2 ⟨[_], [_], _, rfl, runs_request.2 rfl, ?_⟩
    simp only [live, Bool.false_eq_true, ↓reduceIte]
    exact runs_bind.2 ⟨[_], [], _, rfl, runs_request.2 rfl, .done _⟩
  | live domid live =>
    refine runs_bind.2 ⟨[_], [_], _, rfl, runs_request.2 rfl, ?_⟩
    simp only [live, Bool.false_eq_true, ↓reduceIte]
    exact runs_bind.2 ⟨[_], [], _, rfl, runs_request.2 rfl, .done _⟩

/-- Each visit in turn: the subject is asked, and then the watch is settled, once. -/
inductive Visited : List (Visit ε) → List (Exchange (interface ε)) → Prop
  | nil : Visited [] []
  | cons {visit : Visit ε} {visits : List (Visit ε)} {asked rest : List (Exchange (interface ε))}
      {status : Except Fault Status} :
      Learnt visit.subject asked status → Visited visits rest →
      Visited (visit :: visits) (asked ++ ⟨.locked (.settle visit status), ()⟩ :: rest)

theorem visited_of_visitAll {visits : List (Visit ε)} {t : List (Exchange (interface ε))} {a : Unit}
    (h : Runs (visitAll visits) t a) : Visited visits t := by
  induction visits generalizing t with
  | nil =>
    obtain ⟨rfl, -⟩ := runs_pure_iff.1 h
    exact .nil
  | cons visit visits ih =>
    obtain ⟨asked, t₂, status, rfl, h₁, h₂⟩ := runs_bind.1 h
    obtain ⟨_, t₃, _, rfl, h₃, h₄⟩ := runs_bind.1 h₂
    obtain rfl := runs_request.1 h₃
    exact .cons (learnt_of_query h₁) (ih h₄)

theorem Learnt.length_le {subject : ε} {t : List (Exchange (interface ε))}
    {status : Except Fault Status} (h : Learnt subject t status) : t.length ≤ 2 := by
  cases h <;> simp

theorem Visited.length_le {visits : List (Visit ε)} {t : List (Exchange (interface ε))}
    (h : Visited visits t) : t.length ≤ 3 * visits.length := by
  induction h with
  | nil => simp
  | cons learnt _ ih =>
    have := learnt.length_le
    simp only [List.length_append, List.length_cons]
    omega

theorem step_list {p : Progress ε} {thread : Nat} (begun : p.calls thread = pass) :
    Step s p ⟨thread, some ⟨.locked .list, p.state.visits⟩, []⟩
      (p.setCall thread (visitAll p.state.visits)) :=
  .go begun (.locked (.done _))

/-- The first step of a pass lists the watches. -/
theorem lists_of_step {p q : Progress ε} {m : Move ε} {thread : Nat} (h : Step s p m q)
    (begun : p.calls thread = pass) (own : m.thread = thread) (goes : m.exchange.isSome) :
    m.exchange = some ⟨.locked .list, p.state.visits⟩ ∧ m.deeds = [] ∧ q.state = p.state ∧
      q.calls thread = visitAll p.state.visits := by
  cases h with
  | start => cases goes
  | go call serves =>
    subst own
    rw [begun] at call
    cases call
    cases serves with
    | locked run =>
      obtain ⟨rfl, listed⟩ := runs_pure_iff.1 run
      cases listed
      exact ⟨rfl, rfl, rfl, if_pos rfl⟩

/-- The requests that a pass makes once it has listed its visits. -/
def AsksOf (visits : List (Visit ε)) : Request ε → Prop
  | .powerState _ | .domid _ => True
  | .locked (.settle visit _) => visit ∈ visits
  | _ => False

theorem AsksOf.mono {visits more : List (Visit ε)} {r : Request ε} (h : AsksOf visits r)
    (sub : visits ⊆ more) : AsksOf more r := by
  cases r with
  | locked c =>
    cases c with
    | settle visit status => exact sub h
    | _ => exact h
  | _ => exact h

theorem asksOf_of_learnt {subject : ε} {t : List (Exchange (interface ε))}
    {status : Except Fault Status} (h : Learnt subject t status) (visits : List (Visit ε)) :
    ∀ e ∈ t, AsksOf visits e.request := by
  intro e he
  cases h <;> simp only [List.mem_cons, List.not_mem_nil, or_false] at he
  case silent => subst he; trivial
  case ended => subst he; trivial
  case unplaced => rcases he with rfl | rfl <;> trivial
  case live => rcases he with rfl | rfl <;> trivial

theorem asksOf_of_visited {visits : List (Visit ε)} {t : List (Exchange (interface ε))}
    (h : Visited visits t) : ∀ e ∈ t, AsksOf visits e.request := by
  induction h with
  | nil => simp
  | @cons visit visits asked rest status learnt _ ih =>
    intro e he
    rcases List.mem_append.1 he with he | he
    · exact asksOf_of_learnt learnt _ e he
    rcases List.mem_cons.1 he with rfl | he
    · exact List.mem_cons_self ..
    · exact (ih e he).mono (List.subset_cons_self ..)

/-! ## What is done -/

/-- What a leg of a pass over `visits` does. -/
inductive Leg.Visits (s : Settings.Console) (visits : List (Visit ε)) (leg : Leg ε) : Prop
  /-- A subject is asked, and nothing is changed. -/
  | asks {r : Request ε} {a : Answer ε r} :
      leg.exchange = some ⟨r, a⟩ → (∃ subject, r = .powerState subject ∨ r = .domid subject) →
      leg.deeds = [] → leg.after = leg.before → Visits s visits leg
  /-- What was learnt is applied to the watch that was asked about. -/
  | applies {visit : Visit ε} {status : Except Fault Status} {w : Watch ε}
      {outcome : Option (Watch ε)} :
      leg.exchange = some ⟨.locked (.settle visit status), ()⟩ → visit ∈ visits →
      leg.before.watches.find? visit.uuid = some w → w.id = visit.id →
      Reconciled s w leg.deeds status outcome →
      leg.after = leg.before.resolve visit.uuid outcome → Visits s visits leg
  /-- The watch that was asked about is gone, and nothing is changed. -/
  | misses {visit : Visit ε} {status : Except Fault Status} :
      leg.exchange = some ⟨.locked (.settle visit status), ()⟩ → visit ∈ visits →
      (∀ w, leg.before.watches.find? visit.uuid = some w → w.id ≠ visit.id) →
      leg.deeds = [] → leg.after = leg.before → Visits s visits leg

/-- **A leg of a pass** asks, applies or misses. -/
theorem visits_of_step {p q : Progress ε} {m : Move ε} {visits : List (Visit ε)}
    {e : Exchange (interface ε)} (h : Step s p m q) (hm : m.exchange = some e)
    (asks : AsksOf visits e.request) : Leg.Visits s visits ⟨m, p.state, q.state⟩ := by
  cases h with
  | start => cases hm
  | @go thread r next a deeds after call serves =>
    cases hm
    cases serves with
    | powerState subject a => exact .asks rfl ⟨subject, .inl rfl⟩ rfl rfl
    | domid subject a => exact .asks rfl ⟨subject, .inr rfl⟩ rfl rfl
    | locked run =>
      cases performed_of_runs run with
      | settled found same reconciled => exact .applies rfl asks found same reconciled rfl
      | outdated status gone => exact .misses rfl asks gone rfl rfl
      | _ => exact asks.elim
    | _ => exact asks.elim

theorem visits_of_asks {p q : Progress ε} {legs : List (Leg ε)} {thread : Nat}
    {visits : List (Visit ε)} (run : Route s p legs q) (occupied : Occupied thread legs)
    (asks : ∀ e ∈ said thread legs, AsksOf visits e.request) :
    ∀ leg ∈ legs, leg.thread = thread → leg.Visits s visits := by
  intro leg hleg own
  obtain ⟨p', q', step, hp, hq⟩ := step_of_mem run hleg
  obtain ⟨e, he⟩ := Option.isSome_iff_exists.1 (occupied leg hleg own)
  have mem : e ∈ said thread legs := List.mem_filterMap.2 ⟨leg, hleg, by simp [own, he]⟩
  have visits := visits_of_step step he (asks e mem)
  rwa [hp, hq] at visits

theorem visits_of_route {p q : Progress ε} {legs : List (Leg ε)} {thread : Nat}
    {visits : List (Visit ε)} (run : Route s p legs q) (occupied : Occupied thread legs)
    {more : List (Exchange (interface ε))} (visited : Visited visits (said thread legs ++ more)) :
    ∀ leg ∈ legs, leg.thread = thread → leg.Visits s visits :=
  visits_of_asks run occupied fun e he => asksOf_of_visited visited e (List.mem_append_left _ he)

theorem Leg.Visits.uuid_mem {visits : List (Visit ε)} {leg : Leg ε} (h : leg.Visits s visits)
    {uuid : String} (own : leg.uuid? = some uuid) : ∃ visit ∈ visits, visit.uuid = uuid := by
  cases h with
  | asks hm question =>
    rw [uuid_of_question hm question] at own
    cases own
  | applies hm hv | misses hm hv =>
    rw [uuid_of_settle hm, Option.some.injEq] at own
    exact ⟨_, hv, own⟩

/-- What a leg of a pass leaves of a watch that it does not apply anything to. -/
theorem Leg.Visits.spared {visits : List (Visit ε)} {leg : Leg ε} (h : leg.Visits s visits)
    {uuid : String} (other : ∀ w, leg.before.watches.find? uuid = some w →
      ∀ visit ∈ visits, visit.uuid = uuid → visit.id ≠ w.id) :
    leg.after.watches.find? uuid = leg.before.watches.find? uuid ∧
      (leg.uuid? = some uuid → leg.deeds = []) := by
  cases h with
  | asks _ _ quiet same => exact ⟨by rw [same], fun _ => quiet⟩
  | misses _ _ _ quiet same => exact ⟨by rw [same], fun _ => quiet⟩
  | @applies visit status w outcome hm hv found same _ after =>
    have elsewhere : visit.uuid ≠ uuid := by
      rintro rfl
      exact other w found visit hv rfl same.symm
    refine ⟨by rw [after, find?_resolve, if_neg elsewhere], fun own => ?_⟩
    rw [uuid_of_settle hm, Option.some.injEq] at own
    exact absurd own elsewhere

theorem Leg.Visits.applied {visits : List (Visit ε)} {leg : Leg ε} (h : leg.Visits s visits)
    {visit : Visit ε} {status : Except Fault Status} {w : Watch ε}
    (hm : leg.exchange = some ⟨.locked (.settle visit status), ()⟩)
    (found : leg.before.watches.find? visit.uuid = some w) (same : w.id = visit.id) :
    ∃ outcome, Reconciled s w leg.deeds status outcome ∧
      leg.after = leg.before.resolve visit.uuid outcome := by
  cases h with
  | asks hm' question =>
    rw [hm] at hm'
    obtain ⟨subject, rfl | rfl⟩ := question <;> cases hm'
  | applies hm' _ found' _ reconciled after =>
    rw [hm] at hm'
    cases hm'
    rw [found] at found'
    cases found'
    exact ⟨_, reconciled, after⟩
  | misses hm' _ gone =>
    rw [hm] at hm'
    cases hm'
    exact absurd same (gone w found)

end Testbed.Console.Monitor
