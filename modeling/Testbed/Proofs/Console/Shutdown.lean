import Testbed.Proofs.Console.Ledger
import Testbed.Proofs.Console.Service
import Testbed.Proofs.Console.Tending
/-!
# What a shutdown leaves

A shutdown that finds no other call going on but passes leaves nothing: the passes cannot put up a
watch or start a thread, so the watches that it gives up are the last ones, and it stops what they
recorded. Passes that are still going on do not find what they listed, and calls that come later
find nothing at all (`Idles`), until something is added again.

Main statements: `shut_of_shift`, where a shutdown ends; `idle_of_shift`, what can be done after it;
`tended_until_shut`, whoever is under watch is looked after, and a shutdown leaves nothing to do.
-/
namespace Testbed.Console.Monitor

open Program

variable {ε α : Type} {s : Settings.Console} {may : Entry ε → Prop}

/-! ## Quiet moments -/

def Passes : Request ε → Prop
  | .locked .list | .locked (.settle _ _) | .powerState _ | .domid _ => True
  | _ => False

theorem asksOnly_passes : AsksOnly (I := interface ε) Passes pass :=
  asksOnly_pass trivial (fun _ => ⟨trivial, trivial⟩) fun _ _ => trivial

/-- No call goes on but passes. -/
def Progress.Quiet (p : Progress ε) : Prop :=
  ∀ thread, AsksOnly (I := interface ε) Passes (p.calls thread)

/-- In a quiet moment the watches are looked after, since nobody is on the way to see to it. -/
theorem tended_of_quiet {p : Progress ε} (quiet : p.Quiet) (seen : p.SeenTo) : p.state.Tended := by
  refine seen.resolve_right fun ⟨thread, will⟩ => not_will_of_asksOnly ?_ (quiet thread) will
  intro r passes tends
  rcases eq_of_tends tends with rfl | rfl <;> exact passes

theorem returned_of_passes {r : Request ε} (passes : Passes r) : returned r = [] := by
  rcases r with (_ | _ | _ | _ | _ | _ | _ | _) | _ | _ | _ | _ | _
  case locked.list | locked.settle | powerState | domid => rfl
  all_goals exact passes.elim

theorem owesNothing_of_quiet {p : Progress ε} (quiet : p.Quiet) : p.OwesNothing := by
  intro thread owed owes
  have asks := quiet thread
  rcases hc : p.calls thread with _ | ⟨r, next⟩ <;> rw [hc] at owes asks
  · exact owes
  · obtain ⟨rest, rfl, first, -⟩ := owes
    have nothing := returned_of_passes asks.1
    rw [nothing, first nothing]
    rfl

/-! ## During a shutdown -/

def Closes : Request ε → Prop
  | .locked .takeWorker | .locked .clear | .join _ _ | .log _ | .stop _ _ => True
  | _ => False

/-- What may be requested while a thread shuts the monitor down and no other call goes on but
passes. -/
def MayAsk (cleaner thread : Nat) (r : Request ε) : Prop := Passes r ∨ thread = cleaner ∧ Closes r

theorem MayAsk.opens_not {cleaner thread : Nat} {r : Request ε} (h : MayAsk cleaner thread r) :
    r ≠ .locked .startWorker ∧ ∀ a, ¬ Enters r a := by
  have closed : Passes r ∨ Closes r := h.imp_right And.right
  refine ⟨?_, fun a entered => ?_⟩
  · rintro rfl
    exact closed.elim id id
  · obtain ⟨_, _, _, _, rfl⟩ := enter_of_enters entered
    exact closed.elim id id

/-- A shutdown goes on, or has come to its end; passes may go on too. -/
structure Service.Closing (cleaner : Nat) (v : Service ε) : Prop where
  asks : ∀ thread, AsksOnly (I := interface ε) (MayAsk cleaner thread) (v.calls thread)
  worker : v.state.worker = none ∨ Will (· = .locked .takeWorker) (v.calls cleaner)
  watches : v.state.watches = .empty ∨ Will (· = .locked .clear) (v.calls cleaner)

theorem asked_of_step {kind : Nat → Request ε → Prop} {p q : Progress ε} {m : Move ε}
    (h : Step s p m q)
    (kinds : ∀ thread, AsksOnly (I := interface ε) (kind thread) (p.calls thread)) :
    ∀ e ∈ m.exchange, kind m.thread e.request := by
  cases h with
  | start => exact fun _ none_made => by cases none_made
  | @go thread r next a deeds after asks _ =>
    intro e he
    cases he
    have asked := kinds thread
    rw [asks] at asked
    exact asked.1

theorem closing_of_turn {cleaner : Nat} {v w : Service ε} {m : Option (Move ε)}
    (turn : Turn s (· = .pass) v m w) (closing : v.Closing cleaner) : w.Closing cleaner := by
  have passes (thread : Nat) : AsksOnly (I := interface ε) (MayAsk cleaner thread) pass :=
    asksOnly_mono (fun _ => .inl) asksOnly_passes
  have asks := asksOnly_of_turn (fun thread entry h => h ▸ passes thread) passes turn closing.asks
  rcases m with _ | m
  · obtain ⟨-, worker, watches⟩ := closing
    rw [← still_of_turn turn] at worker watches
    exact ⟨asks, worker, watches⟩
  have step := step_of_turn turn
  have asked := asked_of_step step closing.asks
  refine ⟨asks,
    will_of_step (P := fun st => st.worker = none) cleaner step (fun he serves taken => ?_)
      closing.worker,
    will_of_step (P := fun st => st.watches = .empty) cleaner step (fun he serves empty => ?_)
      closing.watches⟩
  · rcases worker_of_serves serves (asked _ he).opens_not.1 with ⟨-, gone⟩ | ⟨other, same⟩
    · exact gone
    · exact same.trans (taken.resolve_right other)
  · exact watches_of_serves serves ((asked _ he).opens_not.2 _) empty

def Service.shutDownBy (v : Service ε) (s : Settings.Console) (cleaner : Nat) : Service ε :=
  { v with toProgress := v.setCall cleaner (shutdown s) }

theorem closing_of_quiet {v : Service ε} (quiet : v.Quiet) (cleaner : Nat) :
    (v.shutDownBy s cleaner).Closing cleaner := by
  have calls : (v.shutDownBy s cleaner).calls cleaner = shutdown s := if_pos rfl
  refine ⟨fun thread => ?_, .inr ?_, .inr ?_⟩
  · by_cases own : thread = cleaner
    · subst own
      rw [calls]
      exact asksOnly_shutdown (.inr ⟨rfl, trivial⟩) (fun _ _ => .inr ⟨rfl, trivial⟩)
        (fun _ => .inr ⟨rfl, trivial⟩) (.inr ⟨rfl, trivial⟩) (fun _ _ => .inr ⟨rfl, trivial⟩) s
    · have other : (v.shutDownBy s cleaner).calls thread = v.calls thread := if_neg own
      rw [other]
      exact asksOnly_mono (fun _ => .inl) (quiet thread)
  · rw [calls]
    exact .inl rfl
  · rw [calls]
    refine .inr fun worker => ?_
    rcases worker with _ | worker
    · exact .inl rfl
    · refine .inr fun ended => ?_
      rcases ended with _ | _
      · exact .inr fun _ => .inl rfl
      · exact .inl rfl

/-- Nothing is under watch and nothing watches. -/
def State.Shut (st : State ε) : Prop := st.watches = .empty ∧ st.worker = none

theorem State.Shut.unwatched {st : State ε} (shut : st.Shut) :
    st.watched = [] ∧ st.isRunning = false := by
  constructor
  · rw [State.watched, shut.1]
    rfl
  · rw [State.isRunning, shut.2]
    rfl

/-- In a quiet moment in which the monitor is shut, all that was launched has been stopped. -/
theorem launches_perm_stops {p : Progress ε} {ms : List (Move ε)} (run : Steps s {} ms p)
    (quiet : p.Quiet) (shut : p.state.Shut) : (launches ms).Perm (stops ms) := by
  have books := launches_perm_of_owesNothing run (owesNothing_of_quiet quiet)
  have gone : p.state.recordings = [] := by
    rw [State.recordings, shut.1]
    rfl
  simpa [gone, processes] using books

/-- **At the end of a shutdown** the monitor is shut, and no call goes on but passes. -/
theorem shut_of_shift {v w : Service ε} {legs : List (Leg ε)} {cleaner : Nat} (quiet : v.Quiet)
    (run : Shift s (· = .pass) (v.shutDownBy s cleaner) legs w)
    (ended : w.calls cleaner = .done ()) : w.state.Shut ∧ w.Quiet := by
  obtain ⟨asks, worker, watches⟩ :=
    shift_preserves closing_of_turn run (closing_of_quiet quiet cleaner)
  rw [ended] at worker watches
  refine ⟨⟨watches.resolve_right id, worker.resolve_right id⟩, fun thread => ?_⟩
  by_cases own : thread = cleaner
  · rw [own, ended]
    trivial
  · exact asksOnly_mono (fun _ may => may.resolve_right fun h => own h.1) (asks thread)

/-! ## After a shutdown -/

/-- Calls that neither put up a watch nor start the passes. -/
def Entry.Idle : Entry ε → Prop
  | .remove _ | .pass | .shutdown => True
  | .add _ _ _ | .start => False

def IsQuestion : Request ε → Prop
  | .powerState _ | .domid _ => True
  | _ => False

/-- A call that finds nothing to do in a state, and makes only requests of a kind. -/
def Idles (s : Settings.Console) (st : State ε) (kind : Request ε → Prop) : Call ε α → Prop
  | .done _ => True
  | .ask r next => kind r ∧ ∀ a deeds after, Serves s st r a deeds after →
      deeds = [] ∧ after = st ∧ Idles s st kind (next a)

theorem Idles.mono {st : State ε} {kind other : Request ε → Prop}
    (wider : ∀ r, kind r → other r) {call : Call ε α} (h : Idles s st kind call) :
    Idles s st other call := by
  induction call with
  | done a => trivial
  | ask r next ih =>
    refine ⟨wider r h.1, fun a deeds after serves => ?_⟩
    obtain ⟨quiet, same, later⟩ := h.2 a deeds after serves
    exact ⟨quiet, same, ih a later⟩

/-- A pass that still goes on finds nothing that it listed. -/
theorem idle_of_passes {st after : State ε} {r : Request ε} {a : Answer ε r} {deeds : Deeds ε}
    (shut : st.Shut) (h : Serves s st r a deeds after) (passes : Passes r) :
    deeds = [] ∧ after = st := by
  cases h with
  | locked run =>
    cases performed_of_runs run with
    | list | outdated => exact ⟨rfl, rfl⟩
    | settled found =>
      rw [shut.1] at found
      cases found
    | _ => exact passes.elim
  | powerState | domid => exact ⟨rfl, rfl⟩
  | stop | join | log => exact passes.elim

theorem idles_of_asksOnly {st : State ε} (shut : st.Shut) {call : Call ε α}
    (h : AsksOnly (I := interface ε) Passes call) : Idles s st (fun _ => True) call := by
  induction call with
  | done a => trivial
  | ask r next ih =>
    refine ⟨trivial, fun a deeds after serves => ?_⟩
    obtain ⟨quiet, same⟩ := idle_of_passes shut serves h.1
    exact ⟨quiet, same, ih a (h.2 a)⟩

/-- What is done under the lock of a monitor that is shut. -/
theorem idles_locked {st : State ε} {kind : Request ε → Prop} {c : Section ε}
    {f : c.Answer → Call ε α} (asks : kind (.locked c)) {a : c.Answer}
    (only : ∀ {a' : c.Answer} {deeds : Deeds ε} {after : State ε},
      Performed s st c a' deeds after → a' = a ∧ deeds = [] ∧ after = st)
    (rest : Idles s st kind (f a)) : Idles s st kind (locked c >>= f) := by
  refine ⟨asks, fun a' deeds after serves => ?_⟩
  cases serves with
  | locked run =>
    obtain ⟨rfl, quiet, same⟩ := only (performed_of_runs run)
    exact ⟨quiet, same, rest⟩

theorem idles_of_idle {st : State ε} (shut : st.Shut) (entry : Entry ε) (idle : entry.Idle) :
    Idles s st (fun r => ¬ IsQuestion r) (entry.call s) := by
  obtain ⟨watches, nextId, worker⟩ := st
  obtain ⟨rfl, rfl⟩ : watches = .empty ∧ worker = none := shut
  cases entry with
  | add | start => exact idle.elim
  | remove uuid =>
    refine idles_locked (a := none) id (fun performed => ?_) trivial
    cases performed
    exact ⟨rfl, rfl, rfl⟩
  | pass =>
    refine idles_locked (a := []) id (fun performed => ?_) trivial
    cases performed
    exact ⟨rfl, rfl, rfl⟩
  | shutdown =>
    refine idles_locked (a := none) id (fun performed => ?_) ?_
    · cases performed
      exact ⟨rfl, rfl, rfl⟩
    · refine idles_locked (a := []) id (fun performed => ?_) trivial
      cases performed
      exact ⟨rfl, rfl, rfl⟩

theorem idle_of_step {kind : Nat → Request ε → Prop} {p q : Progress ε} {m : Move ε}
    (h : Step s p m q) (idles : ∀ thread, Idles s p.state (kind thread) (p.calls thread)) :
    m.deeds = [] ∧ q.state = p.state ∧ ∀ e ∈ m.exchange, kind m.thread e.request := by
  cases h with
  | start => exact ⟨rfl, rfl, fun _ none_made => by cases none_made⟩
  | @go thread r next a deeds after asks serves =>
    have idle := idles thread
    rw [asks] at idle
    obtain ⟨quiet, same, -⟩ := idle.2 a deeds after serves
    refine ⟨quiet, same, fun e he => ?_⟩
    cases he
    exact idle.1

/-- **What is left idles.** In a monitor that is shut nothing is done, and nothing is requested but
what is left of earlier calls requests. -/
theorem idle_of_shift (kind : Nat → Request ε → Prop)
    (wider : ∀ thread r, ¬ IsQuestion r → kind thread r) {v w : Service ε} {legs : List (Leg ε)}
    (run : Shift s Entry.Idle v legs w) (shut : v.state.Shut)
    (idles : ∀ thread, Idles s v.state (kind thread) (v.calls thread)) :
    (w.state = v.state ∧ ∀ thread, Idles s v.state (kind thread) (w.calls thread)) ∧
      ∀ leg ∈ legs, leg.deeds = [] ∧ leg.after = leg.before ∧
        ∀ e ∈ leg.exchange, kind leg.thread e.request := by
  refine shift_invariant (fun x => x.state = v.state ∧
    ∀ thread, Idles s v.state (kind thread) (x.calls thread)) _ ?_ run ⟨rfl, idles⟩
  rintro x y m turn ⟨same, idles⟩
  have goesOn := kept_of_turn
    (fun thread entry idle => (idles_of_idle shut entry idle).mono (wider thread))
    (fun thread => (idles_of_idle shut .pass trivial).mono (wider thread))
    (fun serves idles => (idles.2 _ _ _ (same ▸ serves)).2.2) turn idles
  rcases m with _ | m
  · exact ⟨⟨by rw [still_of_turn turn, same], goesOn⟩, fun _ none_made => by cases none_made⟩
  rw [← same] at idles
  obtain ⟨quiet, stays, asked⟩ := idle_of_step (step_of_turn turn) idles
  refine ⟨⟨stays.trans same, goesOn⟩, fun move hm => ?_⟩
  cases hm
  exact ⟨quiet, stays, asked⟩

/-- A call that begins in a monitor that is shut finds nothing to do. -/
theorem idles_of_begins {v w : Service ε} {m : Move ε} (turn : Turn s Entry.Idle v (some m) w)
    (begins : m.exchange = none) (shut : v.state.Shut) :
    Idles s v.state (fun r => ¬ IsQuestion r) (w.calls m.thread) := by
  cases turn with
  | call idle _ _ =>
    rw [calls_setCall, if_pos rfl]
    exact idles_of_idle shut _ idle
  | wake _ _ wakes =>
    obtain ⟨-, rfl⟩ := onWake_eq_some wakes
    rw [calls_setCall, if_pos rfl]
    exact idles_of_idle shut .pass trivial
  | go _ he _ _ =>
    rw [he] at begins
    cases begins

/-- Calls that begin after a shutdown ask no subject anything. -/
theorem unasked_of_shift {v w : Service ε} {before rest : List (Leg ε)} {opening : Leg ε}
    (run : Shift s Entry.Idle v (before ++ opening :: rest) w) (shut : v.state.Shut)
    (quiet : v.Quiet) (begins : opening.exchange = none) :
    ∀ leg ∈ rest, leg.thread = opening.thread → ∀ e ∈ leg.exchange, ¬ IsQuestion e.request := by
  obtain ⟨m, _, _⟩ := opening
  obtain ⟨v', w', first, turn, last, -, -⟩ := shift_cut run
  have idles (thread : Nat) : Idles s v.state (fun _ => True) (v.calls thread) :=
    idles_of_asksOnly shut (quiet thread)
  have still := (idle_of_shift _ (fun _ _ _ => trivial) first shut idles).1.1
  obtain ⟨same, others⟩ := (idle_of_shift _ (fun _ _ _ => trivial)
    (shift_append first (shift_of_turn turn)) shut idles).1
  have own := idles_of_begins turn begins (still ▸ shut)
  rw [still] at own
  intro leg hleg mine
  have asked := idle_of_shift (fun thread r => thread = m.thread → ¬ IsQuestion r)
    (fun _ _ idle _ => idle) last (same ▸ shut) fun thread => ?_
  · exact fun e he => (asked.2 leg hleg).2.2 e he mine
  rw [same]
  by_cases h : thread = m.thread
  · subst h
    exact own.mono fun _ idle _ => idle
  · exact (others thread).mono fun _ _ mine => absurd mine h

/-- **Work and shutdown.** Take any moment of any interleaving of calls in which no call goes on but
passes. If threads could be started so far, whoever is under watch is looked after. And let a caller
shut the monitor down while nobody else begins anything but passes: in the end nobody is under
watch, no thread is there for the passes, and every process that was launched so far has been
stopped as often as it was launched, which is once if every launch gives a process of its own. Calls
that put up no watch and start no passes find nothing to do from then on, and ask no subject
anything; what is left of an earlier pass does nothing either. -/
theorem tended_until_shut {v : Service ε} {earlier : List (Move ε)}
    (history : Steps s {} earlier v.toProgress) (quiet : v.Quiet) :
    ((∀ m ∈ earlier, ∀ d ∈ m.deeds, ¬ startFailed d) →
      v.state.watched ≠ [] → v.state.isRunning) ∧
    ∀ {cleaner : Nat} {cleaning : List (Leg ε)} {v' : Service ε}, v.calls cleaner = .done () →
      Shift s (· = .pass) (v.shutDownBy s cleaner) cleaning v' → v'.calls cleaner = .done () →
      (v'.state.watched = [] ∧ v'.state.isRunning = false) ∧
      (launches (earlier ++ moves cleaning)).Perm (stops (earlier ++ moves cleaning)) ∧
      ∀ {later : List (Leg ε)} {v'' : Service ε}, Shift s Entry.Idle v' later v'' →
        (∀ leg ∈ later, leg.deeds = [] ∧ leg.after = leg.before) ∧
        ∀ {before rest : List (Leg ε)} {opening : Leg ε}, later = before ++ opening :: rest →
          opening.exchange = none → ∀ leg ∈ rest, leg.thread = opening.thread →
          ∀ e ∈ leg.exchange, ¬ IsQuestion e.request := by
  refine ⟨fun starts watched => ?_, fun {cleaner _ v'} idle cleanup ended => ?_⟩
  · have seen := seenTo_of_steps history starts (fun _ => trivial) (.inl (.inl rfl))
    refine (tended_of_quiet quiet seen).resolve_left fun empty => watched ?_
    rw [State.watched, empty]
    rfl
  · obtain ⟨shut, calm⟩ := shut_of_shift quiet cleanup ended
    refine ⟨shut.unwatched, ?_, fun after => ⟨fun leg hleg => ?_, ?_⟩⟩
    · have begins : Step s v.toProgress ⟨cleaner, none, []⟩ (v.shutDownBy s cleaner).toProgress :=
        .start .shutdown idle
      have whole := steps_append history (.move begins (steps_of_route (route_of_shift cleanup)))
      simpa [launches, stops, Move.processes, Move.uuid?, processes] using
        launches_perm_stops whole calm shut
    · obtain ⟨quiet, same, -⟩ := (idle_of_shift _ (fun _ _ _ => trivial)
        after shut fun thread => idles_of_asksOnly shut (calm thread)).2 leg hleg
      exact ⟨quiet, same⟩
    · rintro before rest opening rfl begins
      exact unasked_of_shift after shut calm begins

/-! ## A shutdown during a pass -/

def askingAbout : List (Leg Unit) × Service Unit :=
  Service.attend {} {} [.call 1 (.add "vm" () none), .go 1 {}, .go 1 {},
    .go 1 { domid := .ok (some 7) }, .go 1 { launch := .ok ⟨1, 100⟩ }, .go 1 {}, .wake 0, .go 0 {}]

/-- While the thread is told to end, it finds that the domain has changed, and ends after that. -/
def changedMeanwhile : List (Leg Unit) × Service Unit :=
  (askingAbout.2.shutDownBy {} 1).attend {} [.go 1 {}, .tell 1, .go 0 {},
    .go 0 { domid := .ok (some 8) }, .go 0 { launch := .ok ⟨3, 102⟩ }, .wake 0,
    .go 1 { ended := true }, .go 1 {}, .go 1 {}]

/-- The uuid is removed, a caller makes a pass, and the monitor is shut down once more. -/
def shutAgain : List (Duty Unit) :=
  [.call 1 (.remove "vm"), .go 1 {}, .call 1 .pass, .go 1 {}, .call 1 .shutdown, .go 1 {}, .go 1 {}]

theorem shift_askingAbout : Shift {} (fun _ => True) {} askingAbout.1 askingAbout.2 :=
  shift_attend _ _ fun _ _ _ _ => trivial

theorem quiet_askingAbout : askingAbout.2.Quiet := by
  have steps := steps_of_route (route_of_shift shift_askingAbout)
  refine forall_calls_of_steps steps 2 (by decide +kernel) trivial fun thread h => ?_
  match thread, h with
  | 0, _ =>
    have visiting : askingAbout.2.calls 0 = visitAll [⟨"vm", 0, ()⟩] := rfl
    rw [visiting]
    exact asksOnly_visitAll (fun _ => ⟨trivial, trivial⟩) (fun _ _ => trivial) _
  | 1, _ =>
    have idle : askingAbout.2.calls 1 = .done () := eq_done_of_ended (by decide +kernel)
    rw [idle]
    trivial

theorem shut_of_changedMeanwhile :
    let later := changedMeanwhile.2.attend {} shutAgain
    let ms := moves askingAbout.1 ++ moves changedMeanwhile.1
    (askingAbout.2.state.watched = ["vm"] ∧ askingAbout.2.state.isRunning) ∧
    (changedMeanwhile.2.state.watched = [] ∧ changedMeanwhile.2.state.isRunning = false) ∧
    launches ms = [("vm", ⟨1, 100⟩), ("vm", ⟨3, 102⟩)] ∧ (launches ms).Perm (stops ms) ∧
    later.1.length = 7 ∧ ∀ leg ∈ later.1, leg.deeds = [] ∧ leg.after = leg.before := by
  intro later ms
  obtain ⟨tended, shut⟩ := tended_until_shut
    (steps_of_route (route_of_shift shift_askingAbout)) quiet_askingAbout
  have cleanup : Shift {} (· = .pass) (askingAbout.2.shutDownBy {} 1) changedMeanwhile.1
      changedMeanwhile.2 := shift_attend _ _ (by simp [Duty.entry?])
  have after : Shift {} Entry.Idle changedMeanwhile.2 later.1 later.2 :=
    shift_attend _ _ (by simp [shutAgain, Duty.entry?, Entry.Idle])
  obtain ⟨gone, books, harmless⟩ := shut (eq_done_of_ended (by decide +kernel)) cleanup
    (eq_done_of_ended (by decide +kernel))
  refine ⟨⟨by decide +kernel, tended (by decide +kernel) (by decide +kernel)⟩, gone,
    by decide +kernel, books, by decide +kernel, (harmless after).1⟩

end Testbed.Console.Monitor
