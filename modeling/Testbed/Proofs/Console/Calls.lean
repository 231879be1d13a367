import Mathlib.Data.List.Induction
import Testbed.Proofs.Console.Pass
import Testbed.Proofs.Console.Schedule
/-!
# Legs and the calls that they belong to

A leg shows what a thread says, and not which call it is in. The calls are found again by going back
to where the thread began the last one: `engaged_of_route`. What a thread can have said by then is
on the list of its call. `Admitted` lists everything that is said when a subject is added, and
`BelongsTo` tells the sections by the calls that contain them.

Main statements: `call_of_leg`, whatever is said is said in a call, after what has been said in it
so far; `admitted_of_add`, what is said when a subject is added is on the list; `belongsTo_of_said`,
no call contains the section of another; `callsKept_of_step`, what is kept of all calls.
-/
namespace Testbed.Console.Monitor

open Program

variable {ε : Type} {s : Settings.Console}

/-! ## The call that a thread is in -/

/-- A thread has begun a call on the way, and nothing since. -/
def Engaged (s : Settings.Console) (p : Progress ε) (legs : List (Leg ε)) (q : Progress ε)
    (thread : Nat) : Prop :=
  ∃ before opening during mid entry, legs = before ++ opening :: during ∧
    opening.thread = thread ∧ opening.exchange = none ∧ Route s p (before ++ [opening]) mid ∧
    mid.calls thread = Entry.call s entry ∧ Route s mid during q ∧ Occupied thread during

/-- A thread is in the same call after a leg that is not its own, or does not begin another. -/
theorem Engaged.concat {p q r : Progress ε} {legs : List (Leg ε)} {thread : Nat}
    (h : Engaged s p legs q thread) {m : Move ε} (step : Step s q m r)
    (goesOn : m.thread = thread → m.exchange.isSome) :
    Engaged s p (legs ++ [⟨m, q.state, r.state⟩]) r thread := by
  obtain ⟨before, opening, during, mid, entry, rfl, own, opens, first, doing, rest, occupied⟩ := h
  refine ⟨before, opening, during ++ [⟨m, q.state, r.state⟩], mid, entry, by simp, own, opens,
    first, doing, route_append rest (route_of_step step), fun leg hleg mine => ?_⟩
  rcases List.mem_append.1 hleg with hleg | hleg
  · exact occupied leg hleg mine
  · obtain rfl := List.mem_singleton.1 hleg
    exact goesOn mine

/-- **Back to the beginning.** A thread that was idle is idle again, or has begun a call and is
still in it. -/
theorem engaged_of_route {p q : Progress ε} {legs : List (Leg ε)} {thread : Nat}
    (run : Route s p legs q) (idle : p.calls thread = .done ()) :
    q.calls thread = .done () ∨ Engaged s p legs q thread := by
  -- from the last leg back, since it is the last call that counts
  induction legs using List.reverseRecOn generalizing q with
  | nil =>
    cases run
    exact .inl idle
  | append_singleton legs leg ih =>
    obtain ⟨m, first, last⟩ := route_split run
    cases last with
    | @leg _ _ _ move _ step rest =>
      cases rest
      have earlier := ih first
      by_cases own : move.thread = thread
      · cases step with
        | start entry still =>
          exact .inr ⟨legs, _, [], _, entry, rfl, own, rfl,
            route_append first (route_of_step (.start entry still)), if_pos own.symm, .rest _,
            by simp [Occupied]⟩
        | go asks serves =>
          obtain rfl : _ = thread := own
          have busy := earlier.resolve_left (by simp [asks])
          exact .inr (busy.concat (.go asks serves) fun _ => rfl)
      · rcases earlier with still | busy
        · exact .inl ((calls_of_step step own).trans still)
        · exact .inr (busy.concat step fun mine => absurd mine own)

/-- A leg belongs to a call that its thread has begun in `earlier`, and in which it has said `told`
since. -/
def Leg.InCall (s : Settings.Console) (earlier : List (Leg ε)) (leg : Leg ε) (entry : Entry ε)
    (told : List (Exchange (interface ε))) : Prop :=
  ∃ before opening during mid q, earlier = before ++ opening :: during ∧
    opening.thread = leg.thread ∧ opening.exchange = none ∧
    Route s {} (before ++ [opening]) mid ∧ mid.calls leg.thread = entry.call s ∧
    Route s mid (during ++ [leg]) q ∧ Occupied leg.thread during ∧ said leg.thread during = told

/-- **Whatever is said is said in a call.** -/
theorem call_of_leg {p q : Progress ε} {earlier : List (Leg ε)} {m : Move ε}
    {e : Exchange (interface ε)} (history : Route s {} earlier p) (step : Step s p m q)
    (he : m.exchange = some e) :
    ∃ entry told more, Leg.InCall s earlier ⟨m, p.state, q.state⟩ entry told ∧
      Runs (entry.call s) (told ++ e :: more) () := by
  cases step with
  | start => cases he
  | @go thread r next a deeds after asks serves =>
    cases he
    have busy : Engaged s {} earlier p thread :=
      (engaged_of_route history rfl).resolve_left (by simp [asks])
    obtain ⟨before, opening, during, mid, entry, rfl, own, opens, first, doing, rest, occupied⟩ :=
      busy
    obtain ⟨more, _, goesOn⟩ := exists_run (next a)
    refine ⟨entry, said thread during, more,
      ⟨before, opening, during, mid, _, rfl, own, opens, first, doing,
        route_append rest (route_of_step (.go asks serves)), occupied, rfl⟩, ?_⟩
    rw [← doing]
    refine runs_said rest occupied ?_
    rw [asks]
    exact .ask goesOn

/-! ## What is said when a subject is added -/

/-- All that can be said when a subject is added, and the answer that is given in the end. -/
inductive Admitted (uuid : String) (subject : ε) (host : Option String) :
    List (Exchange (interface ε)) → Bool → Prop
  /-- The uuid is under watch already. -/
  | known : Admitted uuid subject host [⟨.locked (.isWatched uuid), true⟩] true
  /-- The subject is asked, and does not run in a domain as far as is known. -/
  | refused {asked : List (Exchange (interface ε))} {status : Except Fault Status}
      (entry : Log.Entry) :
      Learnt subject asked status → (∀ domid, status ≠ .ok ⟨.running, some domid⟩) →
      Admitted uuid subject host
        (⟨.locked (.isWatched uuid), false⟩ :: (asked ++ [⟨.log entry, ()⟩])) false
  /-- The uuid has come under watch meanwhile. -/
  | overtaken {domid : Nat} :
      Admitted uuid subject host
        [⟨.locked (.isWatched uuid), false⟩, ⟨.powerState subject, .ok .running⟩,
          ⟨.domid subject, .ok (some domid)⟩,
          ⟨.locked (.enter uuid subject host domid), false⟩] true
  | entered {domid : Nat} :
      Admitted uuid subject host
        [⟨.locked (.isWatched uuid), false⟩, ⟨.powerState subject, .ok .running⟩,
          ⟨.domid subject, .ok (some domid)⟩, ⟨.locked (.enter uuid subject host domid), true⟩,
          ⟨.locked .startWorker, ()⟩] true

theorem Learnt.eq_of_running {subject : ε} {asked : List (Exchange (interface ε))} {domid : Nat}
    (h : Learnt subject asked (.ok ⟨.running, some domid⟩)) :
    asked = [⟨.powerState subject, .ok .running⟩, ⟨.domid subject, .ok (some domid)⟩] := by
  cases h
  rfl

/-- **What is said when a subject is added.** -/
theorem admitted_of_add {uuid : String} {subject : ε} {host : Option String}
    {t : List (Exchange (interface ε))} {b : Bool} (h : Runs (add uuid subject host) t b) :
    Admitted uuid subject host t b := by
  unfold add at h
  obtain ⟨_, t₂, watched, rfl, h₁, h₂⟩ := runs_bind.1 h
  obtain rfl := runs_request.1 h₁
  rcases watched with _ | _
  case true =>
    obtain ⟨rfl, rfl⟩ := runs_pure_iff.1 h₂
    exact .known
  obtain ⟨asked, t₃, status, rfl, h₃, h₄⟩ := runs_bind.1 h₂
  have learnt := learnt_of_query h₃
  have refused {level : Log.Level} {text : String}
      (said : Runs (do log level text; return false : Call ε Bool) t₃ b)
      (other : ∀ domid, status ≠ .ok ⟨.running, some domid⟩) :
      Admitted uuid subject host (⟨.locked (.isWatched uuid), false⟩ :: (asked ++ t₃)) b := by
    obtain ⟨_, t₄, _, rfl, h₅, h₆⟩ := runs_bind.1 said
    obtain rfl := runs_request.1 h₅
    obtain ⟨rfl, rfl⟩ := runs_pure_iff.1 h₆
    exact .refused _ learnt other
  split at h₄
  · exact refused h₄ nofun
  · rw [learnt.eq_of_running]
    obtain ⟨_, t₄, entered, rfl, h₅, h₆⟩ := runs_bind.1 h₄
    obtain rfl := runs_request.1 h₅
    rcases entered with _ | _
    · obtain ⟨rfl, rfl⟩ := runs_pure_iff.1 h₆
      exact .overtaken
    · obtain ⟨_, t₅, _, rfl, h₇, h₈⟩ := runs_bind.1 h₆
      obtain rfl := runs_request.1 h₇
      obtain ⟨rfl, rfl⟩ := runs_pure_iff.1 h₈
      exact .entered
  · exact refused h₄ nofun
  · rename_i other _
    refine refused h₄ fun domid same => ?_
    cases same
    exact other domid rfl rfl

/-! ## Sections and their calls -/

/-- A request that is made in a call, as far as sections are concerned. -/
def BelongsTo : Entry ε → Request ε → Prop
  | .add uuid _ _, .locked (.isWatched uuid') => uuid' = uuid
  | .add uuid subject host, .locked (.enter uuid' subject' host' _) =>
    uuid' = uuid ∧ subject' = subject ∧ host' = host
  | .add _ _ _, .locked .startWorker | .start, .locked .startWorker => True
  | .remove uuid, .locked (.leave uuid') => uuid' = uuid
  | .pass, .locked .list | .pass, .locked (.settle _ _) => True
  | .shutdown, .locked .takeWorker | .shutdown, .locked .clear => True
  | _, .locked _ => False
  | _, _ => True

theorem asksOnly_request {kind : Request ε → Prop} {r : Request ε} (h : kind r) :
    AsksOnly (I := interface ε) kind (Program.request (I := interface ε) r) :=
  ⟨h, fun _ => trivial⟩

theorem asksOnly_query {kind : Request ε → Prop} {subject : ε}
    (asks : kind (.powerState subject) ∧ kind (.domid subject)) :
    AsksOnly (I := interface ε) kind (query subject) := by
  unfold query
  refine asksOnly_bind (asksOnly_request asks.1) fun state => ?_
  rcases state with fault | state
  · trivial
  dsimp only
  split
  · trivial
  · refine asksOnly_bind (asksOnly_request asks.2) fun domid => ?_
    rcases domid with fault | domid <;> trivial

/-- Subjects may be asked in any call. -/
theorem belongsTo_question (entry : Entry ε) (subject : ε) :
    BelongsTo entry (.powerState subject) ∧ BelongsTo entry (.domid subject) := by
  cases entry <;> exact ⟨trivial, trivial⟩

theorem asksOnly_stopAll {kind : Request ε → Prop} (stops : ∀ uuid r, kind (.stop uuid r))
    (rs : List (String × Recording)) : AsksOnly (I := interface ε) kind (stopAll rs) := by
  induction rs with
  | nil => trivial
  | cons r rest ih => exact asksOnly_bind (asksOnly_request (stops _ _)) fun _ => ih

theorem asksOnly_visitAll {kind : Request ε → Prop}
    (asks : ∀ subject, kind (.powerState subject) ∧ kind (.domid subject))
    (settles : ∀ visit status, kind (.locked (.settle visit status))) (visits : List (Visit ε)) :
    AsksOnly (I := interface ε) kind (visitAll visits) := by
  induction visits with
  | nil => trivial
  | cons visit visits ih =>
    exact asksOnly_bind (asksOnly_query (asks _)) fun _ =>
      asksOnly_bind (asksOnly_request (settles _ _)) fun _ => ih

theorem asksOnly_pass {kind : Request ε → Prop} (lists : kind (.locked .list))
    (asks : ∀ subject, kind (.powerState subject) ∧ kind (.domid subject))
    (settles : ∀ visit status, kind (.locked (.settle visit status))) :
    AsksOnly (I := interface ε) kind pass :=
  asksOnly_bind (asksOnly_request lists) (asksOnly_visitAll asks settles)

theorem asksOnly_add (uuid : String) (subject : ε) (host : Option String) :
    AsksOnly (I := interface ε) (BelongsTo (.add uuid subject host)) (add uuid subject host) := by
  unfold add
  refine asksOnly_bind (asksOnly_request rfl) fun watched => ?_
  rcases watched with _ | _
  case true => trivial
  refine asksOnly_bind (asksOnly_query (belongsTo_question _ _)) fun status => ?_
  split
  · exact asksOnly_bind (asksOnly_request trivial) fun _ => trivial
  · refine asksOnly_bind (asksOnly_request ⟨rfl, rfl, rfl⟩) fun entered => ?_
    rcases entered with _ | _
    · trivial
    · exact asksOnly_bind (asksOnly_request trivial) fun _ => trivial
  · exact asksOnly_bind (asksOnly_request trivial) fun _ => trivial
  · exact asksOnly_bind (asksOnly_request trivial) fun _ => trivial

theorem asksOnly_shutdown {kind : Request ε → Prop} (takes : kind (.locked .takeWorker))
    (joins : ∀ worker timeout, kind (.join worker timeout)) (logs : ∀ entry, kind (.log entry))
    (clears : kind (.locked .clear)) (stops : ∀ uuid r, kind (.stop uuid r))
    (s : Settings.Console) : AsksOnly (I := interface ε) kind (shutdown s) := by
  have last : AsksOnly (I := interface ε) kind (do stopAll (← locked .clear) : Call ε Unit) :=
    asksOnly_bind (asksOnly_request clears) (asksOnly_stopAll stops)
  unfold shutdown
  refine asksOnly_bind (asksOnly_request takes) fun worker => ?_
  rcases worker with _ | worker
  · exact last
  refine asksOnly_bind (asksOnly_request (joins _ _)) fun ended => ?_
  rcases ended with _ | _
  · exact asksOnly_bind (asksOnly_request (logs _)) fun _ => last
  · exact last

theorem asksOnly_call (s : Settings.Console) (entry : Entry ε) :
    AsksOnly (I := interface ε) (BelongsTo entry) (entry.call s) := by
  cases entry with
  | add uuid subject host => exact asksOnly_bind (asksOnly_add _ _ _) fun _ => trivial
  | remove uuid =>
    refine asksOnly_bind (asksOnly_request rfl) fun r => ?_
    rcases r with _ | r
    · trivial
    · exact asksOnly_request trivial
  | start => exact asksOnly_request trivial
  | pass => exact asksOnly_pass trivial (belongsTo_question _) fun _ _ => trivial
  | shutdown =>
    exact asksOnly_shutdown trivial (fun _ _ => trivial) (fun _ => trivial) trivial
      (fun _ _ => trivial) s

/-- **No call contains the section of another.** -/
theorem belongsTo_of_said {entry : Entry ε} {t : List (Exchange (interface ε))} {a : Unit}
    (run : Runs (entry.call s) t a) : ∀ e ∈ t, BelongsTo entry e.request :=
  asksOnly_of_runs run (asksOnly_call s entry)

/-! ## Calls of a kind -/

/-- Calls stay of a kind if those that begin are of it, and their steps lead to such calls. -/
theorem callsKept_of_step {Kind : Nat → Call ε Unit → Prop} {p q : Progress ε} {m : Move ε}
    (h : Step s p m q)
    (begins : ∀ entry : Entry ε, m.exchange = none → Kind m.thread (entry.call s))
    (goes : ∀ {thread : Nat} {r : Request ε} {next : Answer ε r → Call ε Unit} {a : Answer ε r}
      {deeds : Deeds ε} {after : State ε},
      Serves s p.state r a deeds after → Kind thread (.ask r next) → Kind thread (next a))
    (kind : ∀ thread, Kind thread (p.calls thread)) : ∀ thread, Kind thread (q.calls thread) := by
  intro thread
  cases h with
  | @start other entry _ =>
    rw [calls_setCall]
    split
    · subst thread
      exact begins entry rfl
    · exact kind thread
  | @go other r next a deeds after asks serves =>
    rw [calls_setCall]
    split
    · subst thread
      exact goes serves (asks ▸ kind other)
    · exact kind thread

end Testbed.Console.Monitor
