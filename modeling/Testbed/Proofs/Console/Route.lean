import Testbed.Proofs.Console.Sections
/-!
# Routes

A run of the monitor together with the states that it goes through: a `Leg` is a move with the state
that it found and the state that it left. What one leg can do to the watch on a uuid is listed once,
in `Leg.Leaves`; with `route_invariant`, what every leg keeps is kept all along the way.

Main statements: `leaves_of_step`, a watch that stands after a leg stood before it, was put up by it
or was reconciled by it; `range_issued`, the numbers of the watches are given out in order;
`runs_said`, what a thread says on the way is what its call says.
-/
namespace Testbed.Console.Monitor

open Program

variable {ε : Type} {s : Settings.Console}

/-- A move, the state that it found and the state that it left. -/
structure Leg (ε : Type) extends Move ε where
  before : State ε
  after : State ε

/-- A run as the legs that it consists of. -/
inductive Route (s : Settings.Console) : Progress ε → List (Leg ε) → Progress ε → Prop
  | rest (p : Progress ε) : Route s p [] p
  | leg {p q r : Progress ε} {m : Move ε} {more : List (Leg ε)} :
      Step s p m q → Route s q more r → Route s p (⟨m, p.state, q.state⟩ :: more) r

theorem route_of_step {p q : Progress ε} {m : Move ε} (step : Step s p m q) :
    Route s p [⟨m, p.state, q.state⟩] q := .leg step (.rest q)

/-- What is seen of a route by who cannot see the states. -/
def moves (legs : List (Leg ε)) : List (Move ε) := legs.map Leg.toMove

theorem steps_of_route {p q : Progress ε} {legs : List (Leg ε)} (run : Route s p legs q) :
    Steps s p (moves legs) q := by
  induction run with
  | rest p => exact .rest p
  | leg step _ ih => exact .move step ih

theorem route_append {p q r : Progress ε} {first second : List (Leg ε)} (h₁ : Route s p first q)
    (h₂ : Route s q second r) : Route s p (first ++ second) r := by
  induction h₁ with
  | rest => exact h₂
  | leg step _ ih => exact .leg step (ih h₂)

theorem route_split {p r : Progress ε} {first second : List (Leg ε)}
    (run : Route s p (first ++ second) r) : ∃ q, Route s p first q ∧ Route s q second r := by
  induction first generalizing p with
  | nil => exact ⟨p, .rest p, run⟩
  | cons leg first ih =>
    cases run with
    | leg step run =>
      obtain ⟨q, h₁, h₂⟩ := ih run
      exact ⟨q, .leg step h₁, h₂⟩

/-- **Invariants.** What every step keeps holds at both ends of every leg. -/
theorem route_invariant {Inv : State ε → Prop}
    (kept : ∀ {p q : Progress ε} {m : Move ε}, Step s p m q → Inv p.state → Inv q.state)
    {p q : Progress ε} {legs : List (Leg ε)} (run : Route s p legs q) (start : Inv p.state) :
    Inv q.state ∧ ∀ leg ∈ legs, Inv leg.before ∧ Inv leg.after := by
  induction run with
  | rest p => exact ⟨start, by simp⟩
  | @leg p q r m more step _ ih =>
    obtain ⟨last, later⟩ := ih (kept step start)
    refine ⟨last, fun leg hleg => ?_⟩
    rcases List.mem_cons.1 hleg with rfl | hleg
    · exact ⟨start, kept step start⟩
    · exact later leg hleg

/-- What no leg changes of the state is as it was. -/
theorem route_frame {α : Type} {p q : Progress ε} {legs : List (Leg ε)} (run : Route s p legs q)
    (f : State ε → α) (same : ∀ leg ∈ legs, f leg.after = f leg.before) :
    f q.state = f p.state := by
  induction run with
  | rest p => rfl
  | leg step _ ih =>
    rw [ih fun leg hleg => same leg (List.mem_cons_of_mem _ hleg)]
    exact same _ (List.mem_cons_self ..)

theorem step_of_mem {p q : Progress ε} {legs : List (Leg ε)} (run : Route s p legs q) {leg : Leg ε}
    (hleg : leg ∈ legs) :
    ∃ p' q', Step s p' leg.toMove q' ∧ p'.state = leg.before ∧ q'.state = leg.after := by
  induction run with
  | rest => cases hleg
  | @leg p q r m more step _ ih =>
    rcases List.mem_cons.1 hleg with rfl | hleg
    · exact ⟨p, q, step, rfl, rfl⟩
    · exact ih hleg

/-! ## What a leg does to a watch -/

/-- The uuid for which a move deals with processes. -/
def Move.uuid? (m : Move ε) : Option String :=
  match m.exchange with
  | some ⟨.locked (.enter uuid _ _ _), _⟩ => some uuid
  | some ⟨.locked (.settle visit _), _⟩ => some visit.uuid
  | some ⟨.stop uuid _, _⟩ => some uuid
  | _ => none

theorem uuid_of_enter {m : Move ε} {uuid : String} {subject : ε} {host : Option String}
    {domid : Nat} {entered : Bool}
    (h : m.exchange = some ⟨.locked (.enter uuid subject host domid), entered⟩) :
    m.uuid? = some uuid := by
  simp only [Move.uuid?, h]

theorem uuid_of_settle {m : Move ε} {visit : Visit ε} {status : Except Fault Status}
    (h : m.exchange = some ⟨.locked (.settle visit status), ()⟩) : m.uuid? = some visit.uuid := by
  simp only [Move.uuid?, h]

theorem uuid_of_question {m : Move ε} {r : Request ε} {a : Answer ε r}
    (h : m.exchange = some ⟨r, a⟩)
    (question : ∃ subject, r = .powerState subject ∨ r = .domid subject) : m.uuid? = none := by
  obtain ⟨subject, rfl | rfl⟩ := question <;> simp only [Move.uuid?, h]

/-- The recordings that a move begins for a uuid, and their hosts. -/
def Move.recordings (uuid : String) (m : Move ε) : List (String × Recording) :=
  if m.uuid? = some uuid then (dealings m.deeds).filterMap Dealing.recorded else []

theorem recordings_of_uuid {m : Move ε} {uuid : String} (own : m.uuid? = some uuid) :
    m.recordings uuid = (dealings m.deeds).filterMap Dealing.recorded := if_pos own

theorem recordings_of_other {m : Move ε} {uuid : String} (other : m.uuid? ≠ some uuid) :
    m.recordings uuid = [] := if_neg other

/-- A move without dealings begins no recording. -/
theorem recordings_of_quiet {m : Move ε} {uuid : String} (quiet : dealings m.deeds = []) :
    m.recordings uuid = [] := by
  simp [Move.recordings, quiet]

/-- Where the watch comes from that a leg leaves on a uuid. -/
inductive Leg.Leaves (s : Settings.Console) (leg : Leg ε) (uuid : String) (w : Watch ε) : Prop
  | stood :
      leg.before.watches.find? uuid = some w → leg.recordings uuid = [] → Leaves s leg uuid w
  | entered {domid : Nat} {place : String} :
      leg.exchange = some ⟨.locked (.enter uuid w.subject w.host domid), true⟩ →
      leg.before.watches.find? uuid = none → w.id = leg.before.nextId →
      w.PlacedOn leg.deeds place → Attempt place domid (dealings leg.deeds) w.recording →
      Leaves s leg uuid w
  | settled {visit : Visit ε} {status : Except Fault Status} {w₀ : Watch ε} :
      leg.exchange = some ⟨.locked (.settle visit status), ()⟩ → visit.uuid = uuid →
      leg.before.watches.find? uuid = some w₀ → w₀.id = visit.id →
      Reconciled s w₀ leg.deeds status (some w) → Leaves s leg uuid w

theorem leaves_of_performed {st after : State ε} {c : Section ε} {a : c.Answer} {deeds : Deeds ε}
    (h : Performed s st c a deeds after) (thread : Nat) {uuid : String} {w : Watch ε}
    (hw : after.watches.find? uuid = some w) :
    Leg.Leaves s ⟨⟨thread, some ⟨.locked c, a⟩, deeds⟩, st, after⟩ uuid w := by
  cases h with
  | isWatched | present | list | outdated | working | started | takeWorker =>
    exact .stood hw (recordings_of_quiet rfl)
  | notStarted => exact .stood hw (recordings_of_other nofun)
  | @entered name subject host domid deeds place r absent placed attempt =>
    rw [Registry.find?_insert] at hw
    by_cases hn : name = uuid
    · subst hn
      rw [if_pos rfl] at hw
      cases hw
      exact .entered rfl absent rfl placed attempt
    · rw [if_neg hn] at hw
      exact .stood hw (recordings_of_other fun own => hn (Option.some.inj own))
  | leave name =>
    rw [Registry.find?_erase] at hw
    by_cases hn : name = uuid
    · rw [if_pos hn] at hw
      cases hw
    · rw [if_neg hn] at hw
      exact .stood hw (recordings_of_quiet rfl)
  | @settled visit status w₀ deeds outcome found same reconciled =>
    rw [find?_resolve] at hw
    by_cases hn : visit.uuid = uuid
    · subst hn
      rw [if_pos rfl] at hw
      subst hw
      exact .settled rfl rfl found same reconciled
    · rw [if_neg hn] at hw
      exact .stood hw (recordings_of_other fun own => hn (Option.some.inj own))
  | clear => cases hw

/-- **One leg.** A watch that stands after a leg stood before it, was put up by it or was reconciled
by it. -/
theorem leaves_of_step {p q : Progress ε} {m : Move ε} (h : Step s p m q) {uuid : String}
    {w : Watch ε} (hw : q.state.watches.find? uuid = some w) :
    Leg.Leaves s ⟨m, p.state, q.state⟩ uuid w := by
  cases h with
  | start => exact .stood hw (recordings_of_quiet rfl)
  | go asks serves =>
    cases serves with
    | locked run => exact leaves_of_performed (performed_of_runs run) _ hw
    | @stop name r deeds run =>
      refine .stood hw ?_
      by_cases own : name = uuid
      · rw [recordings_of_uuid (by rw [← own]; rfl)]
        exact (stopping_of_stopRecording run).recorded
      · exact recordings_of_other fun h => own (Option.some.inj h)
    | _ => exact .stood hw (recordings_of_quiet rfl)

/-! ## The numbers of the watches -/

/-- The number that a leg gives to a new watch. -/
def Leg.issued? (leg : Leg ε) : Option Nat :=
  match leg.exchange with
  | some ⟨.locked (.enter _ _ _ _), true⟩ => some leg.before.nextId
  | _ => none

theorem issued_of_enter {leg : Leg ε} {uuid : String} {subject : ε} {host : Option String}
    {domid : Nat} (h : leg.exchange = some ⟨.locked (.enter uuid subject host domid), true⟩) :
    leg.issued? = some leg.before.nextId := by
  simp only [Leg.issued?, h]

theorem issued_of_performed {st after : State ε} {c : Section ε} {a : c.Answer} {deeds : Deeds ε}
    (h : Performed s st c a deeds after) (thread : Nat) :
    List.range st.nextId ++
        (Leg.issued? ⟨⟨thread, some ⟨.locked c, a⟩, deeds⟩, st, after⟩).toList =
      List.range after.nextId := by
  cases h with
  | entered => exact List.range_succ.symm
  | settled => simp [Leg.issued?]
  | _ => simp [Leg.issued?]

theorem issued_of_step {p q : Progress ε} {m : Move ε} (h : Step s p m q) :
    List.range p.state.nextId ++ (Leg.issued? ⟨m, p.state, q.state⟩).toList =
      List.range q.state.nextId := by
  cases h with
  | start => simp [Leg.issued?]
  | go asks serves =>
    cases serves with
    | locked run => exact issued_of_performed (performed_of_runs run) _
    | _ => simp [Leg.issued?]

/-- **Numbers are given out in order.** -/
theorem range_issued {p q : Progress ε} {legs : List (Leg ε)} (run : Route s p legs q) :
    List.range p.state.nextId ++ legs.filterMap Leg.issued? = List.range q.state.nextId := by
  induction run with
  | rest p => simp
  | @leg p q r m more step _ ih =>
    rw [← ih, ← issued_of_step step, List.append_assoc]
    congr 1
    cases h : Leg.issued? (⟨m, p.state, q.state⟩ : Leg ε) <;> simp [h]

theorem nextId_le_of_step {p q : Progress ε} {m : Move ε} (h : Step s p m q) :
    p.state.nextId ≤ q.state.nextId := by
  have lengths := congrArg List.length (issued_of_step h)
  simp only [List.length_append, List.length_range] at lengths
  omega

/-- The number of every watch was given out. -/
def State.Numbered (st : State ε) : Prop :=
  ∀ {uuid w}, st.watches.find? uuid = some w → w.id < st.nextId

theorem numbered_of_step {p q : Progress ε} {m : Move ε} (h : Step s p m q)
    (numbered : p.state.Numbered) : q.state.Numbered := by
  intro uuid w hw
  have grown := nextId_le_of_step h
  have issued := congrArg List.length (issued_of_step h)
  cases leaves_of_step h hw with
  | stood hw =>
    have := numbered hw
    omega
  | entered hm absent hid placed attempt =>
    have hid : w.id = p.state.nextId := hid
    simp [issued_of_enter hm] at issued
    omega
  | settled hm hv found same reconciled =>
    have := numbered found
    have := reconciled.same.1
    omega

theorem numbered_start : (({} : Progress ε).state).Numbered := by
  intro uuid w hw
  cases hw

/-! ## What a thread says -/

/-- What a thread says on the way, and the answers that it gets. -/
def said (thread : Nat) (legs : List (Leg ε)) : List (Exchange (interface ε)) :=
  legs.filterMap fun leg => if leg.thread = thread then leg.exchange else none

/-- A thread begins no call on the way. -/
def Occupied (thread : Nat) (legs : List (Leg ε)) : Prop :=
  ∀ leg ∈ legs, leg.thread = thread → leg.exchange.isSome

instance (thread : Nat) (legs : List (Leg ε)) : Decidable (Occupied thread legs) :=
  inferInstanceAs (Decidable (∀ leg ∈ legs, leg.thread = thread → leg.exchange.isSome))

theorem said_cons {thread : Nat} {leg : Leg ε} {legs : List (Leg ε)} {e : Exchange (interface ε)}
    (own : leg.thread = thread) (he : leg.exchange = some e) :
    said thread (leg :: legs) = e :: said thread legs := by
  simp [said, own, he]

@[simp] theorem said_append (thread : Nat) (first last : List (Leg ε)) :
    said thread (first ++ last) = said thread first ++ said thread last := List.filterMap_append

/-- **What a thread says is what its call says.** -/
theorem runs_said {p q : Progress ε} {legs : List (Leg ε)} {thread : Nat}
    (run : Route s p legs q) (occupied : Occupied thread legs)
    {more : List (Exchange (interface ε))} {a : Unit} (rest : Runs (q.calls thread) more a) :
    Runs (p.calls thread) (said thread legs ++ more) a := by
  induction run with
  | rest p => exact rest
  | @leg p q r m legs step _ ih =>
    have later := ih (fun leg hleg => occupied leg (List.mem_cons_of_mem _ hleg)) rest
    cases step with
    | @start other entry idle =>
      have own : other ≠ thread := fun h => by
        have := occupied _ (List.mem_cons_self ..) h
        cases this
      simpa [said, own, own.symm] using later
    | @go other request next a deeds after asks serves =>
      by_cases own : other = thread
      · subst own
        rw [asks]
        simpa [said] using Runs.ask (I := interface ε) (by simpa [said] using later)
      · simpa [said, own, Ne.symm own] using later

theorem exists_answer : (r : Request ε) → Nonempty (Answer ε r)
  | .locked (.isWatched _) | .locked (.enter _ _ _ _) | .join _ _ => ⟨false⟩
  | .locked (.leave _) | .locked .takeWorker => ⟨none⟩
  | .locked .list | .locked .clear => ⟨[]⟩
  | .locked (.settle _ _) | .locked .startWorker | .stop _ _ | .log _ => ⟨()⟩
  | .powerState _ => ⟨.ok .running⟩
  | .domid _ => ⟨.ok none⟩

/-- Any call can be gone through with. -/
theorem exists_run {α : Type} (call : Call ε α) : ∃ exchanges a, Runs call exchanges a := by
  induction call with
  | done a => exact ⟨[], a, .done a⟩
  | ask r next ih =>
    obtain ⟨a⟩ := exists_answer r
    obtain ⟨rest, result, run⟩ := ih a
    exact ⟨⟨r, a⟩ :: rest, result, .ask run⟩

end Testbed.Console.Monitor
