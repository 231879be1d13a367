import Testbed.Proofs.Console.Service
import Testbed.Proofs.Console.Tracking
/-!
# Passes that outlive a shutdown

A shutdown waits for the thread of the passes only so long, and not at all for a pass that a caller
makes. A pass that is still waiting for a subject then goes on afterwards, among whatever is done to
the monitor next.

Main statement: `rest_of_pass_harmless`, what is left of such a pass does nothing, and the thread
that was given up makes no other.
-/
namespace Testbed.Console.Monitor

open Program

variable {ε : Type} {s : Settings.Console} {may : Entry ε → Prop}

/-! ## What is said in a shutdown -/

def stopped (handed : String × Recording) : Exchange (interface ε) :=
  ⟨.stop handed.1 handed.2, ()⟩

/-- What is said while the end of the thread that was given up is waited for. -/
inductive Joined (s : Settings.Console) : Option Nat → List (Exchange (interface ε)) → Prop
  /-- There is no thread of the passes. -/
  | alone : Joined s none []
  /-- The thread ended in time. -/
  | ended (worker : Nat) : Joined s (some worker) [⟨.join worker s.joinTimeout, true⟩]
  /-- The thread did not end in time. -/
  | left (worker : Nat) (entry : Log.Entry) :
      Joined s (some worker) [⟨.join worker s.joinTimeout, false⟩, ⟨.log entry, ()⟩]

/-- All that can be said when a monitor is shut down: the thread of the passes is given up first,
and then the watches. -/
inductive Closed (s : Settings.Console) : List (Exchange (interface ε)) → Prop
  | intro {worker : Option Nat} {waiting : List (Exchange (interface ε))}
      (joined : Joined s worker waiting) (rs : List (String × Recording)) :
      Closed s (⟨.locked .takeWorker, worker⟩ ::
        (waiting ++ ⟨.locked .clear, rs⟩ :: rs.map stopped))

theorem stopped_of_stopAll {rs : List (String × Recording)} {t : List (Exchange (interface ε))}
    {a : Unit} (h : Runs (stopAll rs) t a) : t = rs.map stopped := by
  induction rs generalizing t with
  | nil => exact (runs_pure_iff.1 h).1
  | cons r rest ih =>
    obtain ⟨_, t₂, _, rfl, h₁, h₂⟩ := runs_bind.1 h
    obtain rfl := runs_request.1 h₁
    rw [ih h₂]
    rfl

theorem cleared_of_runs {t : List (Exchange (interface ε))} {a : Unit}
    (h : Runs (do stopAll (← locked .clear) : Call ε Unit) t a) :
    ∃ rs : List (String × Recording), t = ⟨.locked .clear, rs⟩ :: rs.map stopped := by
  obtain ⟨_, t₂, rs, rfl, h₁, h₂⟩ := runs_bind.1 h
  obtain rfl := runs_request.1 h₁
  rw [stopped_of_stopAll h₂]
  exact ⟨rs, rfl⟩

/-- **What is said in a shutdown.** -/
theorem closed_of_shutdown {t : List (Exchange (interface ε))} {a : Unit}
    (h : Runs (shutdown s) t a) : Closed s t := by
  unfold shutdown at h
  obtain ⟨_, t₂, worker, rfl, h₁, h₂⟩ := runs_bind.1 h
  obtain rfl := runs_request.1 h₁
  rcases worker with _ | worker
  · obtain ⟨rs, rfl⟩ := cleared_of_runs h₂
    exact .intro .alone rs
  · obtain ⟨_, t₃, ended, rfl, h₃, h₄⟩ := runs_bind.1 h₂
    obtain rfl := runs_request.1 h₃
    rcases ended with _ | _
    · obtain ⟨_, t₄, _, rfl, h₅, h₆⟩ := runs_bind.1 h₄
      obtain rfl := runs_request.1 h₅
      obtain ⟨rs, rfl⟩ := cleared_of_runs h₆
      exact .intro (.left worker _) rs
    · obtain ⟨rs, rfl⟩ := cleared_of_runs h₄
      exact .intro (.ended worker) rs

/-- What is said from the beginning of a shutdown to its end. -/
theorem closed_of_route {p q : Progress ε} {legs : List (Leg ε)} {thread : Nat}
    (run : Route s p legs q) (occupied : Occupied thread legs)
    (begun : p.calls thread = shutdown s) (ended : q.calls thread = .done ()) :
    Closed s (said thread legs) := by
  have whole := runs_said run occupied (ended ▸ Runs.done ())
  rw [begun, List.append_nil] at whole
  exact closed_of_shutdown whole

/-- The thread is given up only once. -/
theorem Joined.others {worker : Option Nat} {waiting : List (Exchange (interface ε))}
    (joined : Joined s worker waiting) (rs : List (String × Recording)) :
    ∀ e ∈ waiting ++ ⟨.locked .clear, rs⟩ :: rs.map stopped, e.request ≠ .locked .takeWorker := by
  have stops : ∀ e ∈ ⟨.locked .clear, rs⟩ :: rs.map (stopped (ε := ε)),
      e.request ≠ .locked .takeWorker :=
    List.forall_mem_cons.2 ⟨nofun, List.forall_mem_map.2 fun _ _ => nofun⟩
  cases joined with
  | alone => exact stops
  | ended => exact List.forall_mem_cons.2 ⟨nofun, stops⟩
  | left => exact List.forall_mem_cons.2 ⟨nofun, List.forall_mem_cons.2 ⟨nofun, stops⟩⟩

theorem Closed.clears {t : List (Exchange (interface ε))} (h : Closed s t) :
    ∃ rs, ⟨.locked .clear, rs⟩ ∈ t := by
  obtain ⟨_, rs⟩ := h
  exact ⟨rs, by simp⟩

/-- The end of a thread that is given up is waited for. -/
theorem Closed.joins {t : List (Exchange (interface ε))} (h : Closed s t) {worker : Nat}
    (taken : ⟨.locked .takeWorker, some worker⟩ ∈ t) :
    ∃ ended, ⟨.join worker s.joinTimeout, ended⟩ ∈ t := by
  obtain ⟨joined, rs⟩ := h
  rcases List.mem_cons.1 taken with same | later
  · cases same
    cases joined with
    | ended => exact ⟨true, by simp⟩
    | left => exact ⟨false, by simp⟩
  · exact absurd rfl (joined.others rs _ later)

/-! ## After the watches were given up -/

theorem emptied_of_step {p q : Progress ε} {m : Move ε} (h : Step s p m q)
    {rs : List (String × Recording)} (hm : m.exchange = some ⟨.locked .clear, rs⟩) :
    q.state = { p.state with watches := .empty } := by
  cases h with
  | start => cases hm
  | go asks serves =>
    cases hm
    cases serves with
    | locked run =>
      cases performed_of_runs run
      rfl

/-- A visit from before the watches were all given up finds none of them. -/
theorem Leg.Visits.idle {visits : List (Visit ε)} {leg : Leg ε} (h : leg.Visits s visits)
    {st : State ε} (empty : st.watches = .empty) (since : st.Since leg.before)
    (old : ∀ visit ∈ visits, visit.id < st.nextId) : leg.deeds = [] ∧ leg.after = leg.before := by
  cases h with
  | asks _ _ quiet same => exact ⟨quiet, same⟩
  | misses _ _ _ quiet same => exact ⟨quiet, same⟩
  | @applies visit status w outcome _ listed found same =>
    obtain ⟨w₀, stood, -⟩ := since.stood found (same ▸ old visit listed)
    rw [empty] at stood
    cases stood

/-- A thread that begins no call and says nothing is where it was. -/
theorem calls_of_silent {p q : Progress ε} {legs : List (Leg ε)} {thread : Nat}
    (run : Route s p legs q) (occupied : Occupied thread legs) (silent : said thread legs = []) :
    q.calls thread = p.calls thread := by
  refine calls_of_steps (steps_of_route run) fun m hm own => ?_
  obtain ⟨leg, hleg, rfl⟩ := List.mem_map.1 hm
  have quiet := List.filterMap_eq_nil_iff.1 silent leg hleg
  rw [if_pos own] at quiet
  have speaks := occupied leg hleg own
  rw [quiet] at speaks
  cases speaks

/-- **After a clearing.** Once a pass has listed the watches and all of them have been given up, it
does nothing any more. -/
theorem idle_after_clear {p q : Progress ε} {thread : Nat}
    {earlier visiting rest : List (Leg ε)} {clearing : Leg ε} {rs : List (String × Recording)}
    (history : Route s {} earlier p) (begun : p.calls thread = pass)
    (run : Route s p (visiting ++ clearing :: rest) q)
    (occupied : Occupied thread (visiting ++ clearing :: rest))
    (listed : said thread visiting ≠ [])
    (clears : clearing.exchange = some ⟨.locked .clear, rs⟩) :
    ∀ leg ∈ rest, leg.thread = thread → leg.deeds = [] ∧ leg.after = leg.before := by
  -- what is said: the list, and then the visits
  obtain ⟨more, _, goesOn⟩ := exists_run (q.calls thread)
  have whole := runs_said run occupied goesOn
  rw [begun] at whole
  obtain ⟨visits, told, list, visited⟩ := visited_of_pass whole
  obtain ⟨e, asked, hsaid⟩ := List.exists_cons_of_ne_nil listed
  rw [said_append, hsaid, List.append_assoc, List.cons_append, List.cons_eq_cons] at list
  obtain ⟨rfl, rfl⟩ := list
  obtain ⟨first, listing, last, rfl, own, lists, -, -⟩ :=
    leg_of_said (show _ = [] ++ _ from hsaid)
  have asks : ∀ e ∈ said thread rest, AsksOf visits e.request := fun e he => by
    refine asksOf_of_visited visited e (List.mem_append_right _ (List.mem_append_left _ ?_))
    exact (List.sublist_cons_self clearing rest).filterMap _ |>.subset he
  -- what has become of the state by then
  rw [List.append_assoc, List.cons_append] at run
  obtain ⟨p₁, before, run⟩ := route_split run
  cases run with
  | @leg _ p₂ _ _ _ list run =>
    obtain rfl := listed_of_step list lists
    obtain ⟨p₃, meanwhile, run⟩ := route_split run
    cases run with
    | @leg _ p₄ _ _ _ clear run =>
      have numbered : p₁.state.Numbered :=
        (route_invariant numbered_of_step (route_append history before) numbered_start).1
      have since : p₁.state.Since p₄.state :=
        (route_invariant since_of_step
          (.leg list (route_append meanwhile (route_of_step clear))) (since_refl _)).1
      have old : ∀ visit ∈ p₁.state.visits, visit.id < p₄.state.nextId := fun visit listed => by
        obtain ⟨w, hw, hid, -⟩ := mem_visits.1 listed
        exact hid ▸ Nat.lt_of_lt_of_le (numbered hw) since.grown
      have empty : p₄.state.watches = .empty := by rw [emptied_of_step clear clears]
      intro leg hleg own
      have goes : Occupied thread rest := fun leg hleg => occupied leg (by simp [hleg])
      have later : p₄.state.Since leg.before :=
        ((route_invariant since_of_step run (since_refl _)).2 leg hleg).1
      exact (visits_of_asks run goes asks leg hleg own).idle empty later old

/-! ## Shutdowns -/

theorem exists_leg_of_said {legs : List (Leg ε)} {thread : Nat} {e : Exchange (interface ε)}
    (h : e ∈ said thread legs) : ∃ leg ∈ legs, leg.thread = thread ∧ leg.exchange = some e := by
  obtain ⟨told, more, cut⟩ := List.append_of_mem h
  obtain ⟨first, leg, last, rfl, own, he, -, -⟩ := leg_of_said cut
  exact ⟨leg, by simp, own, he⟩

def Asking : Call ε Unit → Bool
  | .ask (.powerState _) _ | .ask (.domid _) _ => true
  | _ => false

/-- **What is left of a pass.** Let a pass wait for a subject when a shutdown is about to begin or
has not given up the watches yet, and let the shutdown come to its end, whether the thread of the
passes ended in time or not. From then on, whatever is added, removed, started or shut down, and
whatever the subjects answer in the end, the pass deals with no process and leaves the watches as it
finds them; and the thread that the shutdown gave up makes no pass any more, once word was sent to
it. -/
theorem rest_of_pass_harmless {c u v v' v'' : Service ε} {thread cleaner : Nat}
    {former opening earlier visiting closing later : List (Leg ε)}
    (history : Shift s may {} former c) (shuts : c.calls cleaner = shutdown s)
    (opened : Shift s may c opening v)
    (uncleared : ∀ rs, ⟨.locked .clear, rs⟩ ∉ said cleaner opening)
    (prior : Shift s may {} earlier u) (begun : u.calls thread = pass)
    (run : Shift s may u visiting v) (asking : Asking (v.calls thread))
    (cleanup : Shift s may v closing v') (closed : v'.calls cleaner = .done ())
    (busy : Occupied cleaner (opening ++ closing)) (after : Shift s may v' later v'') :
    (Occupied thread (visiting ++ closing ++ later) →
      ∀ leg ∈ later, leg.thread = thread → leg.deeds = [] ∧ leg.after = leg.before) ∧
    (∀ worker, ⟨.locked .takeWorker, some worker⟩ ∈ said cleaner (opening ++ closing) →
      worker ∈ v'.told ∧
      ∀ {during following : List (Leg ε)} {mid : Service ε}, Shift s may c during mid →
        Shift s may mid following v' →
        ⟨.locked .takeWorker, some worker⟩ ∈ said cleaner during → worker ∈ mid.told →
        Occupied worker (following ++ later)) := by
  have whole := shift_append opened cleanup
  have said_so := closed_of_route (route_of_shift whole) busy shuts closed
  refine ⟨fun occupied leg hleg own => ?_, fun worker taken => ⟨?_, ?_⟩⟩
  · have listed : said thread visiting ≠ [] := fun silent => by
      have waits : Occupied thread visiting := fun leg hleg => occupied leg (by simp [hleg])
      rw [calls_of_silent (route_of_shift run) waits silent, begun] at asking
      cases asking
    -- the watches are given up after the pass has listed them
    obtain ⟨rs, cleared⟩ := said_so.clears
    rw [said_append] at cleared
    obtain ⟨clearing, hclearing, -, clears⟩ :=
      exists_leg_of_said ((List.mem_append.1 cleared).resolve_left (uncleared rs))
    obtain ⟨first, last, rfl⟩ := List.append_of_mem hclearing
    have visited := route_of_shift (shift_append (shift_append run cleanup) after)
    have shape : visiting ++ (first ++ clearing :: last) ++ later =
        (visiting ++ first) ++ clearing :: (last ++ later) := by simp
    rw [shape] at visited occupied
    refine idle_after_clear (route_of_shift prior) begun visited occupied (fun silent => ?_) clears
      leg (List.mem_append_right _ hleg) own
    rw [said_append, List.append_eq_nil_iff] at silent
    exact listed silent.1
  · obtain ⟨ended, joined⟩ := said_so.joins taken
    obtain ⟨leg, hleg, -, he⟩ := exists_leg_of_said joined
    exact told_of_joined whole hleg he
  · intro during following mid before rest taken told
    obtain ⟨leg, hleg, -, he⟩ := exists_leg_of_said taken
    have employed := employed_of_shift history employed_start
    have own := worker_of_taken before employed hleg he
    exact occupied_of_told (shift_append rest after) ⟨own, told⟩

/-! ## A pass that is left behind -/

def woken : Service Unit :=
  (Service.attend {} {} [.call 1 (.add "vm" () none), .go 1 {}, .go 1 {},
    .go 1 { domid := .ok (some 7) }, .go 1 { launch := .ok ⟨1, 100⟩ }, .go 1 {}, .wake 0]).2

def surprised : List (Duty Unit) := [.go 0 {}, .call 1 .shutdown]

def givenUp : List (Duty Unit) :=
  [.go 1 {}, .tell 1, .go 1 { ended := false }, .go 1 {}, .go 1 {}, .go 1 {}]

/-- The uuid is added again, for which another thread is started. Then the first one is told that
the domain has changed. -/
def reopened : List (Duty Unit) :=
  [.call 1 (.add "vm" () none), .go 1 {}, .go 1 {}, .go 1 { domid := .ok (some 7) },
    .go 1 { launch := .ok ⟨2, 101⟩ }, .go 1 { worker := .ok 3 },
    .go 0 {}, .go 0 { domid := .ok (some 8) }, .go 0 {}, .wake 0, .wake 3]

theorem rest_of_reopened_harmless :
    let waiting := woken.attend {} surprised
    let closed := waiting.2.attend {} givenUp
    let later := closed.2.attend {} reopened
    (∀ leg ∈ later.1, leg.thread = 0 → leg.deeds = [] ∧ leg.after = leg.before) ∧
    0 ∈ closed.2.told ∧ Occupied 0 later.1 ∧ ¬ Occupied 3 later.1 ∧
    (later.2.state.watches.find? "vm").map (fun w => (w.id, w.recording.map (·.process))) =
      some (1, some ⟨2, 101⟩) := by
  intro waiting closed later
  have shift (v : Service Unit) (duties : List (Duty Unit)) :
      Shift {} (fun _ => True) v (v.attend {} duties).1 (v.attend {} duties).2 :=
    shift_attend v duties fun _ _ _ _ => trivial
  obtain ⟨harmless, gone⟩ := rest_of_pass_harmless
    (shift_append (shift {} _) (shift woken surprised))
    (show waiting.2.calls 1 = shutdown {} from rfl) (.rest _) (fun _ => List.not_mem_nil)
    (shift {} _) (show woken.calls 0 = pass from rfl) (shift woken surprised) (by decide +kernel)
    (shift _ givenUp) (eq_done_of_ended (by decide +kernel)) (by decide +kernel) (shift _ reopened)
  have taken : ⟨.locked .takeWorker, some 0⟩ ∈ said 1 closed.1 := List.mem_cons_self ..
  obtain ⟨told, stays⟩ := gone 0 taken
  have alone := stays (shift waiting.2 givenUp) (.rest _) taken told
  exact ⟨harmless (by decide +kernel), told, alone, by decide +kernel, by decide +kernel⟩

end Testbed.Console.Monitor
