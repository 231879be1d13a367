import Mathlib.Data.List.Count
import Testbed.Proofs.Console.Schedule
/-!
# The ledger of console processes

Every process that was launched for a uuid is booked until the stopping of it begins. The books
balance in every interleaving of calls: what was launched and is not being stopped belongs to the
recording of a watch, or was handed over to a call that stops it next (`launches_perm`). A call asks
nobody anything while it owes such a stop (`Owes`), so wherever the calls have come to rest, at a
question or at their end, the processes in the books are exactly those of the watches
(`processes_accounted_for`).
-/
namespace Testbed.Console.Monitor

open Program

variable {ε : Type}

/-! ## Values under keys -/

section
variable {κ β : Type} [DecidableEq κ]

def under (k : κ) (ps : List (κ × β)) : List β :=
  ps.filterMap fun p => if p.1 = k then some p.2 else none

@[simp] theorem under_nil (k : κ) : under k ([] : List (κ × β)) = [] := rfl

@[simp] theorem under_append (k : κ) (ps qs : List (κ × β)) :
    under k (ps ++ qs) = under k ps ++ under k qs := List.filterMap_append

theorem under_cons (k key : κ) (b : β) (ps : List (κ × β)) :
    under k ((key, b) :: ps) = if key = k then b :: under k ps else under k ps := by
  by_cases h : key = k <;> simp [under, h]

@[simp] theorem under_map_key (k key : κ) (bs : List β) :
    under k (bs.map (key, ·)) = if key = k then bs else [] := by
  induction bs with
  | nil => simp
  | cons b bs ih =>
    rw [List.map_cons, under_cons, ih]
    split <;> rfl

theorem count_under [DecidableEq β] (k : κ) (b : β) (ps : List (κ × β)) :
    (under k ps).count b = ps.count (k, b) := by
  induction ps with
  | nil => rfl
  | cons p ps ih =>
    obtain ⟨key, c⟩ := p
    rw [under_cons]
    by_cases h : key = k
    · subst h
      by_cases hc : c = b <;> simp [hc, ih]
    · simp [h, ih]

/-- Lists that agree under every key agree. -/
theorem perm_of_under [DecidableEq β] {ps qs : List (κ × β)}
    (h : ∀ k, (under k ps).Perm (under k qs)) : ps.Perm qs := by
  refine List.perm_iff_count.2 fun ⟨k, b⟩ => ?_
  rw [← count_under, ← count_under]
  exact (h k).count_eq b

end

/-! ## The books -/

/-- The processes that some of the dealings of a move are with, and their uuid. -/
def Move.processes (of : Dealing → Option Process) (m : Move ε) : List (String × Process) :=
  match m.uuid? with
  | some uuid => ((dealings m.deeds).filterMap of).map (uuid, ·)
  | none => []

/-- The processes launched so far, each under the uuid that it was launched for. -/
def launches (moves : List (Move ε)) : List (String × Process) :=
  moves.flatMap (Move.processes Dealing.launched)

/-- The processes whose stopping was begun. -/
def stops (moves : List (Move ε)) : List (String × Process) :=
  moves.flatMap (Move.processes Dealing.stopped)

/-- The recordings that a step hands over to the call that makes it. -/
def handed : (r : Request ε) → Answer ε r → List (String × Recording)
  | .locked (.leave uuid), r => (Option.toList r).map (uuid, ·)
  | .locked .clear, rs => rs
  | _, _ => []

/-- The recordings that a step stops for the call that makes it. -/
def returned : Request ε → List (String × Recording)
  | .stop uuid r => [(uuid, r)]
  | _ => []

def Move.handed (m : Move ε) : List (String × Recording) :=
  match m.exchange with
  | some ⟨r, a⟩ => Monitor.handed r a
  | none => []

def Move.returned (m : Move ε) : List (String × Recording) :=
  match m.exchange with
  | some ⟨r, _⟩ => Monitor.returned r
  | none => []

def processes (rs : List (String × Recording)) : List (String × Process) :=
  rs.map fun (uuid, r) => (uuid, r.process)

def State.attached (st : State ε) (uuid : String) : Option Process :=
  ((st.watches.find? uuid).bind (·.recording)).map (·.process)

/-! ## One step -/

@[simp] theorem attached_resolve (st : State ε) (uuid other : String) (outcome : Option (Watch ε)) :
    (st.resolve uuid outcome).attached other =
      if uuid = other then (outcome.bind (·.recording)).map (·.process) else st.attached other := by
  unfold State.attached
  rw [find?_resolve]
  split <;> rfl

theorem under_recordings (es : List (String × Watch ε)) (distinct : (es.map Prod.fst).Nodup)
    (uuid : String) :
    under uuid (es.filterMap fun (uuid, w) => w.recording.map (uuid, ·)) =
      ((Registry.lookup uuid es).bind (·.recording)).toList := by
  induction es with
  | nil => rfl
  | cons e es ih =>
    obtain ⟨name, w⟩ := e
    obtain ⟨absent, distinct⟩ := List.nodup_cons.1 distinct
    rw [List.filterMap_cons, Registry.lookup]
    by_cases h : name = uuid
    · subst h
      have gone : Registry.lookup name es = none := Registry.lookup_eq_none.2 absent
      have tail := ih distinct
      rw [gone] at tail
      rcases hr : w.recording with _ | r <;> simpa [hr, under_cons] using tail
    · rcases hr : w.recording with _ | r <;> simpa [hr, under_cons, h] using ih distinct

theorem under_processes (uuid : String) (rs : List (String × Recording)) :
    under uuid (processes rs) = (under uuid rs).map (·.process) := by
  simp only [under, processes, List.filterMap_map, List.map_filterMap]
  congr 1
  funext ⟨name, r⟩
  by_cases h : name = uuid <;> simp [h]

/-- The process that records a uuid is the one under it in the recordings that are going on. -/
theorem under_attached (st : State ε) (uuid : String) :
    under uuid (processes st.recordings) = (st.attached uuid).toList := by
  have found : under uuid st.recordings = ((st.watches.find? uuid).bind (·.recording)).toList :=
    under_recordings st.watches.entries st.watches.distinct uuid
  rw [under_processes, found, State.attached]
  cases (st.watches.find? uuid).bind (·.recording) <;> rfl

theorem attached_insert (st : State ε) (uuid other : String) (w : Watch ε) (n : Nat) :
    ({ st with watches := st.watches.insert uuid w, nextId := n } : State ε).attached other =
      if uuid = other then w.recording.map (·.process) else st.attached other := by
  simp only [State.attached, Registry.find?_insert]
  split <;> rfl

/-- The books of one uuid balance over a section. -/
theorem balance_of_performed {s : Settings.Console} {st after : State ε} {c : Section ε}
    {a : c.Answer} {deeds : Deeds ε} (h : Performed s st c a deeds after) (thread : Nat)
    (uuid : String) :
    ((st.attached uuid).toList ++
        under uuid (Move.processes Dealing.launched ⟨thread, some ⟨.locked c, a⟩, deeds⟩)).Perm
      (under uuid (Move.processes Dealing.stopped ⟨thread, some ⟨.locked c, a⟩, deeds⟩) ++
        under uuid (processes (handed (.locked c) a)) ++ (after.attached uuid).toList) := by
  cases h with
  | isWatched | present | list | outdated | working | started | notStarted | takeWorker =>
    simp [Move.processes, Move.uuid?, handed, processes, State.attached]
  | @entered name subject host domid deeds place r hw placed attempt =>
    rw [attached_insert]
    by_cases hn : name = uuid
    · subst hn
      have nothing : st.attached name = none := by simp [State.attached, hw]
      simp [Move.processes, Move.uuid?, handed, processes, nothing, attempt.booked]
    · simp [Move.processes, Move.uuid?, handed, processes, hn]
  | leave name =>
    have gone : ({ st with watches := st.watches.erase name } : State ε).attached uuid =
        if name = uuid then none else st.attached uuid := attached_resolve st name uuid none
    rw [gone]
    by_cases hn : name = uuid
    · subst hn
      rcases hr : (st.watches.find? name).bind (·.recording) with _ | r <;>
        simp [Move.processes, Move.uuid?, handed, under_processes, under_cons, State.attached, hr]
    · simp [Move.processes, Move.uuid?, handed, under_processes, hn]
  | @settled visit status w deeds outcome hw same reconciled =>
    rw [attached_resolve]
    by_cases hn : visit.uuid = uuid
    · subst hn
      have now : st.attached visit.uuid = w.recording.map (·.process) := by
        simp [State.attached, hw]
      simpa [Move.processes, Move.uuid?, handed, processes, now] using reconciled.balance
    · simp [Move.processes, Move.uuid?, handed, processes, hn]
  | clear => simp [Move.processes, Move.uuid?, handed, under_attached, State.attached]

/-- The books of one uuid balance over a move. -/
theorem balance_of_step {s : Settings.Console} {p q : Progress ε} {m : Move ε} (h : Step s p m q)
    (uuid : String) :
    ((p.state.attached uuid).toList ++ under uuid (m.processes Dealing.launched) ++
        under uuid (processes m.returned)).Perm
      (under uuid (m.processes Dealing.stopped) ++ under uuid (processes m.handed) ++
        (q.state.attached uuid).toList) := by
  cases h with
  | start entry idle =>
    simp [Move.processes, Move.uuid?, Move.returned, Move.handed, processes]
  | @go thread r next a deeds after asks serves =>
    cases serves with
    | locked run =>
      have balance := balance_of_performed (performed_of_runs run) thread uuid
      simpa [Move.returned, Move.handed, returned, processes] using balance
    | powerState | domid | join | log =>
      simp [Move.processes, Move.uuid?, Move.returned, Move.handed, handed, returned, processes]
    | @stop name r deeds run =>
      have booked := (stopping_of_stopRecording run).booked
      by_cases hn : name = uuid
      · subst hn
        simp [Move.processes, Move.uuid?, Move.returned, Move.handed, handed, returned, processes,
          booked, under_cons]
      · simp [Move.processes, Move.uuid?, Move.returned, Move.handed, handed, returned, processes,
          under_cons, hn]

def handovers (moves : List (Move ε)) : List (String × Recording) := moves.flatMap Move.handed

def returns (moves : List (Move ε)) : List (String × Recording) := moves.flatMap Move.returned

/-- The books of one uuid balance over a run. -/
theorem balance_of_steps {s : Settings.Console} {p q : Progress ε} {moves : List (Move ε)}
    (run : Steps s p moves q) (uuid : String) :
    ((p.state.attached uuid).toList ++ under uuid (launches moves) ++
        under uuid (processes (returns moves))).Perm
      (under uuid (stops moves) ++ under uuid (processes (handovers moves)) ++
        (q.state.attached uuid).toList) := by
  induction run with
  | rest p => simp [launches, stops, handovers, returns, processes]
  | @move p q r m more step _ ih =>
    refine List.perm_iff_count.2 fun x => ?_
    have first := (balance_of_step step uuid).count_eq x
    have later := ih.count_eq x
    simp only [launches, stops, handovers, returns, processes, List.flatMap_cons, List.map_append,
      under_append, List.count_append] at first later ⊢
    omega

/-! ## What calls owe -/

/-- A call that owes the stops of recordings: it makes them in their order before anything else, and
owes what is handed over to it on the way. -/
def Owes {α : Type} : Call ε α → List (String × Recording) → Prop
  | .done _, owed => owed = []
  | .ask r next, owed => ∃ rest, owed = returned r ++ rest ∧ (returned r = [] → rest = []) ∧
      ∀ a, Owes (next a) (rest ++ handed r a)

theorem owes_bind {α β : Type} {p : Call ε α} {f : α → Call ε β} {owed : List (String × Recording)}
    (hp : Owes p owed) (hf : ∀ a, Owes (f a) []) : Owes (p >>= f) owed := by
  induction p generalizing owed with
  | done a =>
    obtain rfl : owed = [] := hp
    exact hf a
  | ask r next ih =>
    obtain ⟨rest, rfl, first, later⟩ := hp
    exact ⟨rest, rfl, first, fun a => ih a (later a)⟩

theorem owes_done {α : Type} (a : α) : Owes (.done a : Call ε α) [] := rfl

/-- A request that hands over nothing and stops nothing leaves nothing owed. -/
theorem owes_request {r : Request ε} (returnsNothing : returned r = [])
    (handsNothing : ∀ a, handed r a = []) : Owes (Program.request (I := interface ε) r) [] :=
  ⟨[], by simp [returnsNothing], fun _ => rfl, fun a => handsNothing a⟩

theorem owes_query (subject : ε) : Owes (query subject) [] := by
  unfold query
  refine owes_bind (owes_request rfl fun _ => rfl) fun state => ?_
  rcases state with fault | state
  · rfl
  by_cases terminal : state.isTerminal
  · simp only [terminal]
    rfl
  · simp only [terminal]
    refine owes_bind (owes_request rfl fun _ => rfl) fun domid => ?_
    rcases domid with fault | domid <;> rfl

theorem owes_add (uuid : String) (subject : ε) (host : Option String) :
    Owes (add uuid subject host) [] := by
  unfold add
  refine owes_bind (owes_request rfl fun _ => rfl) fun watched => ?_
  rcases watched with _ | _
  · refine owes_bind (owes_query subject) fun status => ?_
    split
    · exact owes_bind (owes_request rfl fun _ => rfl) fun _ => rfl
    · refine owes_bind (owes_request rfl fun _ => rfl) fun entered => ?_
      rcases entered with _ | _
      · rfl
      · exact owes_bind (owes_request rfl fun _ => rfl) fun _ => rfl
    · exact owes_bind (owes_request rfl fun _ => rfl) fun _ => rfl
    · exact owes_bind (owes_request rfl fun _ => rfl) fun _ => rfl
  · rfl

theorem owes_visitAll (visits : List (Visit ε)) : Owes (visitAll visits) [] := by
  induction visits with
  | nil => rfl
  | cons visit rest ih =>
    exact owes_bind (owes_query visit.subject) fun _ =>
      owes_bind (owes_request rfl fun _ => rfl) fun _ => ih

theorem owes_pass : Owes (pass (ε := ε)) [] :=
  owes_bind (owes_request rfl fun _ => rfl) owes_visitAll

/-- What is stopped in a row is what is owed. -/
theorem owes_stopAll (rs : List (String × Recording)) : Owes (stopAll (ε := ε) rs) rs := by
  induction rs with
  | nil => rfl
  | cons r rest ih =>
    refine ⟨rest, rfl, fun h => by simp [returned] at h, fun _ => ?_⟩
    change Owes (stopAll rest) (rest ++ [])
    rwa [List.append_nil]

theorem owes_remove (uuid : String) : Owes (remove (ε := ε) uuid) [] := by
  refine ⟨[], rfl, fun _ => rfl, fun r => ?_⟩
  rcases r with _ | r
  · rfl
  · exact ⟨[], rfl, fun _ => rfl, fun _ => rfl⟩

theorem owes_shutdown (s : Settings.Console) : Owes (shutdown (ε := ε) s) [] := by
  have last : Owes (do stopAll (← locked .clear) : Call ε Unit) [] :=
    ⟨[], rfl, fun _ => rfl, fun rs => owes_stopAll rs⟩
  unfold shutdown
  refine owes_bind (owes_request rfl fun _ => rfl) fun worker => ?_
  rcases worker with _ | worker
  · exact last
  refine owes_bind (owes_request rfl fun _ => rfl) fun ended => ?_
  rcases ended with _ | _
  · exact owes_bind (owes_request rfl fun _ => rfl) fun _ => last
  · exact last

theorem owes_call (s : Settings.Console) (entry : Entry ε) : Owes (entry.call s) [] := by
  cases entry with
  | add uuid subject host => exact owes_bind (owes_add uuid subject host) fun _ => rfl
  | remove uuid => exact owes_remove uuid
  | start => exact owes_request rfl fun _ => rfl
  | pass => exact owes_pass
  | shutdown => exact owes_shutdown s

/-- What each thread was handed, in the order of the run. -/
def handoversBy (moves : List (Move ε)) : List (Nat × String × Recording) :=
  moves.flatMap fun m => m.handed.map (m.thread, ·)

def returnsBy (moves : List (Move ε)) : List (Nat × String × Recording) :=
  moves.flatMap fun m => m.returned.map (m.thread, ·)

/-- **No hand-over is forgotten.** What a thread was handed is what it stopped, and then what its
call still owes. -/
theorem owes_of_steps {s : Settings.Console} {p q : Progress ε} {moves : List (Move ε)}
    (run : Steps s p moves q) (thread : Nat) {owed : List (String × Recording)}
    (h : Owes (p.calls thread) owed) :
    ∃ owed', Owes (q.calls thread) owed' ∧
      owed ++ under thread (handoversBy moves) = under thread (returnsBy moves) ++ owed' := by
  induction run generalizing owed with
  | rest p => exact ⟨owed, h, by simp [handoversBy, returnsBy]⟩
  | @move p q r m more step _ ih =>
    have next : ∃ rest, Owes (q.calls thread) rest ∧
        owed ++ under thread (m.handed.map (m.thread, ·)) =
          under thread (m.returned.map (m.thread, ·)) ++ rest := by
      cases step with
      | @start other entry idle =>
        by_cases same : thread = other
        · subst same
          rw [idle] at h
          obtain rfl : owed = [] := h
          exact ⟨[], by simpa using owes_call s entry, rfl⟩
        · exact ⟨owed, by simpa [same] using h, by simp [Move.handed, Move.returned]⟩
      | @go other request next a deeds after asks serves =>
        by_cases same : thread = other
        · subst same
          rw [asks] at h
          obtain ⟨rest, rfl, -, later⟩ := h
          exact ⟨_, by simpa using later a, by simp [Move.handed, Move.returned]⟩
        · exact ⟨owed, by simpa [same] using h, by simp [Ne.symm same]⟩
    obtain ⟨rest, hrest, first⟩ := next
    obtain ⟨owed', howed', later⟩ := ih hrest
    refine ⟨owed', howed', ?_⟩
    simp only [handoversBy, returnsBy, List.flatMap_cons, under_append] at later ⊢
    rw [← List.append_assoc, first, List.append_assoc, later, List.append_assoc]

/-! ## The books balance -/

theorem owes_nothing_of_rests {call : Call ε Unit} {owed : List (String × Recording)}
    (h : Owes call owed) (rests : Rests call) : owed = [] := by
  cases call with
  | done => exact h
  | ask r next =>
    obtain ⟨rest, rfl, first, -⟩ := h
    cases r with
    | stop uuid r => simp [Rests] at rests
    | locked | powerState | domid | join | log => exact first rfl

/-- No call owes the stop of a recording. -/
def Progress.OwesNothing (p : Progress ε) : Prop :=
  ∀ thread owed, Owes (p.calls thread) owed → owed = []

theorem owesNothing_of_atRest {p : Progress ε} (rest : p.AtRest) : p.OwesNothing :=
  fun thread _ owes => owes_nothing_of_rests owes (rest thread)

/-- The recordings that were handed over and are not stopped yet are owed. -/
theorem handovers_perm_returns {s : Settings.Console} {p : Progress ε} {moves : List (Move ε)}
    (run : Steps s {} moves p) (settled : p.OwesNothing) :
    (handovers moves).Perm (returns moves) := by
  have byThread : (handoversBy moves).Perm (returnsBy moves) := by
    refine perm_of_under fun thread => ?_
    obtain ⟨owed, owes, same⟩ := owes_of_steps run thread (owes_done ())
    rw [settled thread owed owes, List.append_nil, List.nil_append] at same
    rw [same]
  have forget (f : Move ε → List (String × Recording)) :
      (moves.flatMap fun m => (f m).map (m.thread, ·)).map Prod.snd = moves.flatMap f := by
    simp [List.map_flatMap, Function.comp_def]
  have h := byThread.map Prod.snd
  rwa [handoversBy, returnsBy, forget, forget] at h

/-- Every dealing with a process is in the books of some uuid. -/
theorem dealings_of_step {s : Settings.Console} {p q : Progress ε} {m : Move ε} (h : Step s p m q)
    (unbooked : m.uuid? = none) : dealings m.deeds = [] := by
  cases h with
  | start => rfl
  | go asks serves =>
    cases serves with
    | locked run =>
      cases performed_of_runs run with
      | entered | settled => simp [Move.uuid?] at unbooked
      | notStarted _ quiet => simpa [dealings, Dealing.of] using quiet
      | _ => rfl
    | stop run => simp [Move.uuid?] at unbooked
    | _ => rfl

theorem dealings_of_mem {s : Settings.Console} {p q : Progress ε} {moves : List (Move ε)}
    (run : Steps s p moves q) {m : Move ε} (hm : m ∈ moves) (unbooked : m.uuid? = none) :
    dealings m.deeds = [] := by
  induction run with
  | rest => cases hm
  | move step _ ih =>
    rcases List.mem_cons.1 hm with rfl | later
    · exact dealings_of_step step unbooked
    · exact ih later

/-- The processes that were launched and whose stopping has not begun. -/
def unstopped (moves : List (Move ε)) : List (String × Process) :=
  (launches moves).diff (stops moves)

/-- **The books balance at any moment.** What was launched is being stopped, records a uuid, or was
handed over to a call that stops it next. -/
theorem launches_perm {s : Settings.Console} {p : Progress ε} {moves : List (Move ε)}
    (run : Steps s {} moves p) :
    (launches moves ++ processes (returns moves)).Perm
      (stops moves ++ processes (handovers moves) ++ processes p.state.recordings) := by
  refine perm_of_under fun uuid => ?_
  have balance := balance_of_steps run uuid
  have nothing : ({} : State ε).attached uuid = none := rfl
  simpa [nothing, under_attached] using balance

/-- The books balance where no call owes anything: nothing is on its way to a stop then. -/
theorem launches_perm_of_owesNothing {s : Settings.Console} {p : Progress ε}
    {moves : List (Move ε)} (run : Steps s {} moves p) (settled : p.OwesNothing) :
    (launches moves).Perm (stops moves ++ processes p.state.recordings) := by
  have returned : (processes (handovers moves)).Perm (processes (returns moves)) :=
    (handovers_perm_returns run settled).map _
  refine List.perm_iff_count.2 fun x => ?_
  have balance := (launches_perm run).count_eq x
  have same := returned.count_eq x
  simp only [List.count_append] at balance ⊢
  omega

theorem unstopped_perm {s : Settings.Console} {p : Progress ε} {moves : List (Move ε)}
    (run : Steps s {} moves p) (rest : p.AtRest) :
    (unstopped moves).Perm (processes p.state.recordings) := by
  refine List.perm_iff_count.2 fun x => ?_
  have balance := (launches_perm_of_owesNothing run (owesNothing_of_atRest rest)).count_eq x
  rw [List.count_append] at balance
  rw [unstopped, List.count_diff]
  omega

/-- **The process ledger.** Wherever the calls have come to rest, the processes launched for a uuid
and not being stopped are exactly the process of the recording that its watch has. So there is never
a second one, none is lost without its stopping having begun, and none is stopped more often than it
was launched: once, if every launch gives a process of its own. No dealing is off the books. -/
theorem processes_accounted_for {s : Settings.Console} {p : Progress ε} {moves : List (Move ε)}
    (run : Steps s {} moves p) (rest : p.AtRest) :
    (∀ uuid, under uuid (unstopped moves) = (p.state.attached uuid).toList) ∧
    (∀ uuid, (under uuid (unstopped moves)).length ≤ 1) ∧
    (∀ booked ∈ launches moves,
      booked ∈ stops moves ∨ p.state.attached booked.1 = some booked.2) ∧
    (∀ booked, (stops moves).count booked ≤ (launches moves).count booked) ∧
    (((launches moves).map Prod.snd).Nodup → ((stops moves).map Prod.snd).Nodup) ∧
    (∀ m ∈ moves, m.uuid? = none → dealings m.deeds = []) := by
  have books := launches_perm_of_owesNothing run (owesNothing_of_atRest rest)
  have exact (uuid : String) : under uuid (unstopped moves) = (p.state.attached uuid).toList := by
    have same : (under uuid (unstopped moves)).Perm (p.state.attached uuid).toList := by
      rw [← under_attached]
      exact (unstopped_perm run rest).filterMap _
    rcases h : p.state.attached uuid with _ | q <;> rw [h] at same
    · exact List.perm_nil.1 same
    · exact List.perm_singleton.1 same
  refine ⟨exact, fun uuid => ?_, fun ⟨uuid, q⟩ launched => ?_, fun booked => ?_, fun own => ?_, ?_⟩
  · rw [exact]
    cases p.state.attached uuid <;> simp
  · rcases List.mem_append.1 (books.mem_iff.1 launched) with stopped | kept
    · exact .inl stopped
    · have under : q ∈ under uuid (processes p.state.recordings) :=
        List.mem_filterMap.2 ⟨(uuid, q), kept, by simp⟩
      rw [under_attached] at under
      exact .inr (by simpa using under)
  · rw [books.count_eq, List.count_append]
    omega
  · rw [(books.map Prod.snd).nodup_iff, List.map_append] at own
    exact (List.nodup_append.1 own).1
  · exact fun m hm unbooked => dealings_of_mem run hm unbooked

def readded : List (Order Unit) := added ++ .call 0 .pass :: .go 0 {} :: meanwhile

theorem readded_atRest : (obey {} {} readded).2.AtRest :=
  atRest_of_steps (steps_obey {} {} readded) 2 (by decide +kernel) (by decide +kernel)

theorem processes_of_readded_accounted_for :
    launches (moves (obey {} {} readded).1) = [("vm", ⟨1, 100⟩), ("vm", ⟨2, 101⟩)] ∧
    stops (moves (obey {} {} readded).1) = [("vm", ⟨1, 100⟩)] ∧
    (obey {} {} readded).2.AtRest ∧
    under "vm" (unstopped (moves (obey {} {} readded).1)) =
      ((obey {} {} readded).2.state.attached "vm").toList :=
  ⟨by decide +kernel, by decide +kernel, readded_atRest,
    (processes_accounted_for (steps_obey {} {} readded) readded_atRest).1 "vm"⟩

end Testbed.Console.Monitor
