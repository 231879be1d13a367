import Testbed.Proofs.Console.Calls
import Testbed.Proofs.Console.Ledger
import Testbed.Proofs.Console.Snapshot
/-!
# Who is under watch

A watch is put up by the addition of a subject that was asked and runs in a domain, and by nothing
else; it ends when its uuid is removed, when the monitor is shut down, or when a pass has asked its
subject and that has ended. Whatever else goes wrong leaves it where it is.

Main statements: `entered_of_step` and `left_of_step`, the two ways in and out with the calls that
they belong to; `stands_or_left`, a watch stands as long as no leg ends it; `tracking_kept`, all of
it for a whole run, with what an addition answers.
-/
namespace Testbed.Console

/-- Two states of one watch: at most its recording differs. -/
def Watch.Same {ε : Type} (w w' : Watch ε) : Prop :=
  w'.id = w.id ∧ w'.subject = w.subject ∧ w'.host = w.host

theorem Watch.Same.refl {ε : Type} (w : Watch ε) : w.Same w := ⟨rfl, rfl, rfl⟩

theorem Watch.Same.trans {ε : Type} {w₁ w₂ w₃ : Watch ε} (h₁ : w₁.Same w₂) (h₂ : w₂.Same w₃) :
    w₁.Same w₃ :=
  ⟨h₂.1.trans h₁.1, h₂.2.1.trans h₁.2.1, h₂.2.2.trans h₁.2.2⟩

namespace Monitor

open Program

variable {ε : Type} {s : Settings.Console}

/-! ## One leg -/

theorem same_of_step {p q : Progress ε} {m : Move ε} (h : Step s p m q) {uuid : String}
    {w w' : Watch ε} (hw : p.state.watches.find? uuid = some w)
    (hw' : q.state.watches.find? uuid = some w') : w.Same w' := by
  cases leaves_of_step h hw' with
  | stood stood =>
    rw [hw, Option.some.injEq] at stood
    exact stood ▸ .refl w
  | entered _ absent =>
    rw [hw] at absent
    cases absent
  | settled _ _ found _ reconciled =>
    rw [hw, Option.some.injEq] at found
    exact found ▸ reconciled.same

/-- How a leg can end the watch on a uuid. -/
inductive Leg.Ends (leg : Leg ε) (uuid : String) (w : Watch ε) : Prop
  | removed {r : Option Recording} :
      leg.exchange = some ⟨.locked (.leave uuid), r⟩ → Ends leg uuid w
  | cleared {rs : List (String × Recording)} :
      leg.exchange = some ⟨.locked .clear, rs⟩ → Ends leg uuid w
  | ended {visit : Visit ε} {state : PowerState} {domid : Option Nat} :
      leg.exchange = some ⟨.locked (.settle visit (.ok ⟨state, domid⟩)), ()⟩ →
      visit.uuid = uuid → w.id = visit.id → state.isTerminal → Ends leg uuid w

theorem ends_of_step {p q : Progress ε} {m : Move ε} (h : Step s p m q) {uuid : String}
    {w : Watch ε} (hw : p.state.watches.find? uuid = some w)
    (gone : q.state.watches.find? uuid = none) : Leg.Ends ⟨m, p.state, q.state⟩ uuid w := by
  have stays {st : State ε} (same : st.watches.find? uuid = p.state.watches.find? uuid)
      (gone : st.watches.find? uuid = none) : False := by
    rw [same, hw] at gone
    cases gone
  cases h with
  | start => exact (stays rfl gone).elim
  | @go thread r next a deeds after asks serves =>
    cases serves with
    | locked run =>
      cases performed_of_runs run with
      | @entered name subject host domid deeds place r absent placed attempt =>
        have gone : (p.state.watches.insert name _).find? uuid = none := gone
        rw [Registry.find?_insert] at gone
        split at gone
        · cases gone
        · exact (stays rfl (hw ▸ gone)).elim
      | leave name =>
        by_cases hn : name = uuid
        · subst hn
          exact .removed rfl
        · exact (stays (by simp [hn]) gone).elim
      | @settled visit status w₀ deeds outcome found same reconciled =>
        by_cases hn : visit.uuid = uuid
        · subst hn
          rw [hw, Option.some.injEq] at found
          subst found
          have gone : (p.state.resolve visit.uuid outcome).watches.find? visit.uuid = none := gone
          rw [find?_resolve, if_pos rfl] at gone
          subst gone
          cases reconciled with
          | ended terminal => exact .ended rfl rfl same terminal
        · exact (stays (by simp [hn]) gone).elim
      | clear => exact .cleared rfl
      | _ => exact (stays rfl gone).elim
    | _ => exact (stays rfl gone).elim

/-! ## What a pass knows about the watch that it settles -/

theorem learnt_question {subject : ε} {asked : List (Exchange (interface ε))}
    {status : Except Fault Status} (h : Learnt subject asked status) {visit : Visit ε}
    {other : Except Fault Status} : ⟨.locked (.settle visit other), ()⟩ ∉ asked :=
  fun he => List.not_mem_nil (asksOf_of_learnt h [] _ he)

/-- What is settled in a row of visits has been learnt just before. -/
theorem learnt_of_visited {visits : List (Visit ε)} {told more : List (Exchange (interface ε))}
    {visit : Visit ε} {status : Except Fault Status}
    (h : Visited visits (told ++ ⟨.locked (.settle visit status), ()⟩ :: more)) :
    visit ∈ visits ∧ ∃ first asked, told = first ++ asked ∧ Learnt visit.subject asked status := by
  generalize ht : told ++ ⟨.locked (.settle visit status), ()⟩ :: more = t at h
  induction h generalizing told with
  | nil => simp at ht
  | @cons head visits asked rest learnt_status learnt visited ih =>
    rcases List.append_eq_append_iff.1 ht with ⟨part, rfl, tail⟩ | ⟨part, rfl, tail⟩
    · rcases part with _ | ⟨e, part⟩
      · cases tail
        exact ⟨List.mem_cons_self .., [], told, rfl, by simpa using learnt⟩
      · obtain ⟨rfl, -⟩ := List.cons_eq_cons.1 tail
        exact absurd (List.mem_append_right _ (List.mem_cons_self ..)) (learnt_question learnt)
    · rcases part with _ | ⟨e, part⟩
      · cases tail
        exact ⟨List.mem_cons_self .., [], asked, by simp, learnt⟩
      · rw [List.cons_append, List.cons_eq_cons] at tail
        obtain ⟨rfl, tail⟩ := tail
        obtain ⟨mem, first, asked', rfl, learnt'⟩ := ih tail.symm
        refine ⟨List.mem_cons_of_mem _ mem,
          asked ++ ⟨.locked (.settle head learnt_status), ()⟩ :: first, asked', ?_, learnt'⟩
        rw [List.append_assoc, List.cons_append]

theorem visited_of_pass {t : List (Exchange (interface ε))} (h : Runs (pass (ε := ε)) t ()) :
    ∃ visits rest, t = ⟨.locked .list, visits⟩ :: rest ∧ Visited visits rest := by
  obtain ⟨_, rest, visits, rfl, h₁, h₂⟩ := runs_bind.1 h
  obtain rfl := runs_request.1 h₁
  exact ⟨visits, rest, rfl, visited_of_visitAll h₂⟩

/-- The leg in which something was said. -/
theorem leg_of_said {legs : List (Leg ε)} {thread : Nat} {told more : List (Exchange (interface ε))}
    {e : Exchange (interface ε)} (h : said thread legs = told ++ e :: more) :
    ∃ first leg last, legs = first ++ leg :: last ∧ leg.thread = thread ∧ leg.exchange = some e ∧
      said thread first = told ∧ said thread last = more := by
  obtain ⟨first, rest, rfl, rfl, tail⟩ := List.filterMap_eq_append_iff.1 h
  obtain ⟨skipped, leg, last, rfl, silent, he, rfl⟩ := List.filterMap_eq_cons_iff.1 tail
  refine ⟨first ++ skipped, leg, last, by simp, ?_⟩
  split at he
  · exact ⟨‹_›, he, by simp [said, List.filterMap_eq_nil_iff.2 silent], rfl⟩
  · cases he

theorem listed_of_step {p q : Progress ε} {m : Move ε} (h : Step s p m q)
    {visits : List (Visit ε)} (hm : m.exchange = some ⟨.locked .list, visits⟩) :
    visits = p.state.visits := by
  cases h with
  | start => cases hm
  | go asks serves =>
    cases hm
    cases serves with
    | locked run =>
      cases performed_of_runs run
      rfl

/-- **What is settled was asked of the subject of the watch**, by the same call and just before. -/
theorem asked_of_settle {earlier : List (Leg ε)} {leg : Leg ε}
    {told more : List (Exchange (interface ε))}
    (call : leg.InCall s earlier .pass told) {visit : Visit ε} {status : Except Fault Status}
    (said_so : Runs (pass (ε := ε)) (told ++ ⟨.locked (.settle visit status), ()⟩ :: more) ())
    {w : Watch ε} (found : leg.before.watches.find? visit.uuid = some w) (same : w.id = visit.id) :
    ∃ first asked, told = first ++ asked ∧ Learnt w.subject asked status := by
  obtain ⟨visits, rest, split, visited⟩ := visited_of_pass said_so
  rcases told with _ | ⟨e, told⟩
  · cases split
  rw [List.cons_append, List.cons_eq_cons] at split
  obtain ⟨rfl, rfl⟩ := split
  obtain ⟨mem, first, asked, rfl, learnt⟩ := learnt_of_visited visited
  -- back to the leg in which the watches were listed
  obtain ⟨before, opening, during, mid, q, rfl, -, -, history, -, run, -, told⟩ := call
  have told : said leg.thread during = [] ++ _ := told
  obtain ⟨skipped, listing, later, rfl, -, hlist, -, -⟩ := leg_of_said told
  rw [List.append_assoc] at run
  obtain ⟨p, way, run⟩ := route_split run
  obtain ⟨p', listed, settles⟩ := route_split run
  have since : p.state.Since p'.state := (route_invariant since_of_step listed (since_refl _)).1
  have numbered : p.state.Numbered :=
    (route_invariant numbered_of_step (route_append history way) numbered_start).1
  cases settles with
  | leg _ _ =>
    cases listed with
    | leg step _ =>
      rw [listed_of_step step hlist] at mem
      obtain ⟨w₀, hw₀, hid, hsubject⟩ := mem_visits.1 mem
      obtain ⟨w₁, hw₁, -, hsubject₁, -⟩ :=
        since.stood found (by rw [same, ← hid]; exact numbered hw₀)
      rw [hw₀, Option.some.injEq] at hw₁
      subst hw₁
      refine ⟨⟨.locked .list, visits⟩ :: first, asked, rfl, ?_⟩
      rwa [← hsubject₁, hsubject]

/-! ## In and out, with the calls -/

/-- A subject is entered after it was asked, and runs in a domain. -/
theorem Admitted.told_of_enter {uuid : String} {subject : ε} {host : Option String} {b a : Bool}
    {t told more : List (Exchange (interface ε))} {uuid' : String} {subject' : ε}
    {host' : Option String} {domid : Nat} (h : Admitted uuid subject host t b)
    (split : t = told ++ ⟨.locked (.enter uuid' subject' host' domid), a⟩ :: more) :
    told = [⟨.locked (.isWatched uuid), false⟩, ⟨.powerState subject, .ok .running⟩,
      ⟨.domid subject, .ok (some domid)⟩] := by
  have mem : ⟨.locked (.enter uuid' subject' host' domid), a⟩ ∈ t := by
    rw [split]
    exact List.mem_append_right _ (List.mem_cons_self ..)
  cases h with
  | known => cases List.mem_singleton.1 mem
  | refused entry learnt =>
    rcases List.mem_cons.1 mem with first | mem
    · cases first
    · rcases List.mem_append.1 mem with asked | last
      · exact (asksOf_of_learnt learnt [] _ asked).elim
      · cases List.mem_singleton.1 last
  | @overtaken domid' | @entered domid' =>
    have split : [⟨.locked (.isWatched uuid), false⟩, ⟨.powerState subject, .ok .running⟩,
        ⟨.domid subject, .ok (some domid')⟩] ++ _ :: _ = told ++ _ := split
    have before : (⟨.locked (.enter uuid' subject' host' domid), a⟩ : Exchange (interface ε)) ∉
        [⟨.locked (.isWatched uuid), false⟩, ⟨.powerState subject, .ok .running⟩,
          ⟨.domid subject, .ok (some domid')⟩] := by
      rintro (_ | ⟨_, _ | ⟨_, _ | ⟨_, _ | _⟩⟩⟩)
    obtain ⟨rfl, same, -⟩ := (List.append_cons_inj_of_notMem before (by nofun)).1 split
    cases same
    rfl

/-- **The way in.** A watch is put up in the addition of its subject, which was asked for its state
and its domain just before, and runs in one. -/
theorem entered_of_step {p q : Progress ε} {earlier : List (Leg ε)} {m : Move ε}
    (history : Route s {} earlier p) (step : Step s p m q) {uuid : String} {w : Watch ε}
    (absent : p.state.watches.find? uuid = none) (hw : q.state.watches.find? uuid = some w) :
    ∃ domid, m.exchange = some ⟨.locked (.enter uuid w.subject w.host domid), true⟩ ∧
      Leg.InCall s earlier ⟨m, p.state, q.state⟩ (.add uuid w.subject w.host)
        [⟨.locked (.isWatched uuid), false⟩, ⟨.powerState w.subject, .ok .running⟩,
          ⟨.domid w.subject, .ok (some domid)⟩] := by
  cases leaves_of_step step hw with
  | stood stood =>
    rw [absent] at stood
    cases stood
  | settled _ _ found =>
    rw [absent] at found
    cases found
  | @entered domid place hm =>
    refine ⟨domid, hm, ?_⟩
    obtain ⟨entry, told, more, call, run⟩ := call_of_leg history step hm
    have belongs := belongsTo_of_said run _ (List.mem_append_right _ (List.mem_cons_self ..))
    cases entry with
    | add uuid' subject host =>
      obtain ⟨rfl, rfl, rfl⟩ := belongs
      obtain ⟨t, rest, b, split, added, ended⟩ := runs_bind.1 run
      obtain ⟨rfl, -⟩ := runs_pure_iff.1 ended
      rw [List.append_nil] at split
      rwa [(admitted_of_add added).told_of_enter split.symm] at call
    | _ => exact belongs.elim

/-- **The way out.** A watch ends in the removal of its uuid, in a shutdown, or in a pass that has
asked its subject just before and learnt that it has ended. -/
theorem left_of_step {p q : Progress ε} {earlier : List (Leg ε)} {m : Move ε}
    (history : Route s {} earlier p) (step : Step s p m q) {uuid : String} {w : Watch ε}
    (hw : p.state.watches.find? uuid = some w) (gone : q.state.watches.find? uuid = none) :
    (∃ told, Leg.InCall s earlier ⟨m, p.state, q.state⟩ (.remove uuid) told) ∨
    (∃ told, Leg.InCall s earlier ⟨m, p.state, q.state⟩ .shutdown told) ∨
    ∃ told state, state.isTerminal ∧ Leg.InCall s earlier ⟨m, p.state, q.state⟩ .pass
      (told ++ [⟨.powerState w.subject, .ok state⟩]) := by
  have inCall {e : Exchange (interface ε)} (hm : m.exchange = some e) :
      ∃ entry told more, Leg.InCall s earlier ⟨m, p.state, q.state⟩ entry told ∧
        Runs (entry.call s) (told ++ e :: more) () ∧ BelongsTo entry e.request := by
    obtain ⟨entry, told, more, call, run⟩ := call_of_leg history step hm
    exact ⟨entry, told, more, call, run,
      belongsTo_of_said run _ (List.mem_append_right _ (List.mem_cons_self ..))⟩
  cases ends_of_step step hw gone with
  | removed hm =>
    obtain ⟨entry, told, -, call, -, belongs⟩ := inCall hm
    cases entry with
    | remove uuid' =>
      obtain rfl : uuid = uuid' := belongs
      exact .inl ⟨told, call⟩
    | _ => exact belongs.elim
  | cleared hm =>
    obtain ⟨entry, told, -, call, -, belongs⟩ := inCall hm
    cases entry with
    | shutdown => exact .inr (.inl ⟨told, call⟩)
    | _ => exact belongs.elim
  | ended hm hv same terminal =>
    obtain ⟨entry, told, more, call, run, belongs⟩ := inCall hm
    cases entry with
    | pass =>
      obtain ⟨first, asked, rfl, learnt⟩ := asked_of_settle call run (hv ▸ hw) same
      cases learnt with
      | ended _ => exact .inr (.inr ⟨first, _, terminal, call⟩)
      | live _ live => exact absurd terminal live
    | _ => exact belongs.elim

/-! ## Additions -/

/-- The sections that are about the watches, and not about the thread of the passes. -/
def OnWatches : Request ε → Prop
  | .locked .startWorker | .locked .takeWorker => False
  | .locked _ => True
  | _ => False

def Move.OnWatches (m : Move ε) : Prop :=
  ∃ e, m.exchange = some e ∧ Monitor.OnWatches e.request

/-- The requests by which an addition finds out whether there is something to be done. -/
def LooksOnly : Request ε → Prop
  | .locked (.isWatched _) | .powerState _ | .domid _ | .log _ => True
  | _ => False

theorem unchanged_of_looks {p q : Progress ε} {m : Move ε} (h : Step s p m q)
    {e : Exchange (interface ε)} (hm : m.exchange = some e) (looks : LooksOnly e.request) :
    m.deeds = [] ∧ q.state = p.state := by
  cases h with
  | start => exact ⟨rfl, rfl⟩
  | go asks serves =>
    cases hm
    cases serves with
    | locked run =>
      cases performed_of_runs run with
      | isWatched => exact ⟨rfl, rfl⟩
      | _ => exact looks.elim
    | powerState | domid | log => exact ⟨rfl, rfl⟩
    | _ => exact looks.elim

theorem isWatched_of_step {p q : Progress ε} {m : Move ε} (h : Step s p m q) {uuid : String}
    {watched : Bool} (hm : m.exchange = some ⟨.locked (.isWatched uuid), watched⟩) :
    watched = p.state.watches.contains uuid ∧ q.state = p.state := by
  cases h with
  | start => cases hm
  | go asks serves =>
    cases hm
    cases serves with
    | locked run =>
      cases performed_of_runs run
      exact ⟨rfl, rfl⟩

/-- A uuid that is entered is under watch, whoever put it there. -/
theorem contains_of_enter {p q : Progress ε} {m : Move ε} (h : Step s p m q) {uuid : String}
    {subject : ε} {host : Option String} {domid : Nat} {entered : Bool}
    (hm : m.exchange = some ⟨.locked (.enter uuid subject host domid), entered⟩) :
    q.state.watches.contains uuid = true := by
  cases h with
  | start => cases hm
  | go asks serves =>
    cases hm
    cases serves with
    | locked run =>
      cases performed_of_runs run with
      | present _ _ _ hw => simp [Registry.contains, hw]
      | entered => simp [Registry.contains]

/-- What is said for an addition, and what it comes to. -/
structure Added (thread : Nat) (uuid : String) (legs : List (Leg ε)) (answer : Bool) : Prop where
  /-- If the answer is yes, the uuid was under watch after the last section about the watches. -/
  yes : answer = true → ∃ first leg last, legs = first ++ leg :: last ∧ leg.thread = thread ∧
    leg.OnWatches ∧ leg.after.watches.contains uuid = true ∧
    ∀ other ∈ last, other.thread = thread → ¬ other.OnWatches
  /-- If the answer is no, nothing was done and nothing was changed. -/
  no : answer = false → ∀ leg ∈ legs, leg.thread = thread →
    leg.deeds = [] ∧ leg.after = leg.before
  /-- If the uuid was under watch at the first step, that is all that was looked at. -/
  known : ∀ first leg last, legs = first ++ leg :: last → leg.thread = thread →
    (∀ other ∈ first, other.thread ≠ thread) → leg.before.watches.contains uuid = true →
    answer = true ∧ said thread legs = [⟨.locked (.isWatched uuid), true⟩] ∧
      ∀ leg ∈ legs, leg.thread = thread → leg.deeds = [] ∧ leg.after = leg.before

/-- The last section about the watches, if the uuid is under watch after it. -/
theorem yes_of_said {p q : Progress ε} {legs : List (Leg ε)} {thread : Nat} {uuid : String}
    (run : Route s p legs q) {told more : List (Exchange (interface ε))}
    {e : Exchange (interface ε)} (split : said thread legs = told ++ e :: more)
    (on : OnWatches e.request) (off : ∀ e ∈ more, ¬ OnWatches e.request)
    (watched : ∀ {p q : Progress ε} {m : Move ε}, Step s p m q → m.exchange = some e →
      q.state.watches.contains uuid = true) :
    ∃ first leg last, legs = first ++ leg :: last ∧ leg.thread = thread ∧ leg.OnWatches ∧
      leg.after.watches.contains uuid = true ∧
      ∀ other ∈ last, other.thread = thread → ¬ other.OnWatches := by
  obtain ⟨first, leg, last, rfl, own, he, -, rfl⟩ := leg_of_said split
  obtain ⟨p', q', step, -, after⟩ :=
    step_of_mem run (List.mem_append_right _ (List.mem_cons_self ..))
  refine ⟨first, leg, last, rfl, own, ⟨e, he, on⟩, after ▸ watched step he, ?_⟩
  rintro other hother mine ⟨e', he', on'⟩
  exact off e' (List.mem_filterMap.2 ⟨other, hother, by simp [mine, he']⟩) on'

/-- A thread that only looks changes nothing. -/
theorem unchanged_of_said {p q : Progress ε} {legs : List (Leg ε)} {thread : Nat}
    (run : Route s p legs q) (occupied : Occupied thread legs)
    (looks : ∀ e ∈ said thread legs, LooksOnly e.request) :
    ∀ leg ∈ legs, leg.thread = thread → leg.deeds = [] ∧ leg.after = leg.before := by
  intro leg hleg own
  obtain ⟨p', q', step, before, after⟩ := step_of_mem run hleg
  obtain ⟨e, he⟩ := Option.isSome_iff_exists.1 (occupied leg hleg own)
  have mem : e ∈ said thread legs := List.mem_filterMap.2 ⟨leg, hleg, by simp [own, he]⟩
  rw [← before, ← after]
  exact unchanged_of_looks step he (looks e mem)

theorem looksOnly_of_learnt {subject : ε} {asked : List (Exchange (interface ε))}
    {status : Except Fault Status} (h : Learnt subject asked status) :
    ∀ e ∈ asked, LooksOnly e.request := by
  intro e he
  have question := asksOf_of_learnt h [] e he
  obtain ⟨r, a⟩ := e
  cases r with
  | locked c =>
    cases c with
    | settle => cases question
    | _ => exact question.elim
  | powerState | domid => trivial
  | _ => exact question.elim

/-- The first thing that is said is said in the first leg of the thread. -/
theorem said_first {first last : List (Leg ε)} {leg : Leg ε} {thread : Nat}
    (occupied : Occupied thread (first ++ leg :: last)) (own : leg.thread = thread)
    (others : ∀ other ∈ first, other.thread ≠ thread) :
    ∃ e, leg.exchange = some e ∧ said thread (first ++ leg :: last) = e :: said thread last := by
  have mem : leg ∈ first ++ leg :: last := List.mem_append_right _ (List.mem_cons_self ..)
  obtain ⟨e, he⟩ := Option.isSome_iff_exists.1 (occupied leg mem own)
  have silent : said thread first = [] :=
    List.filterMap_eq_nil_iff.2 fun other hother => if_neg (others other hother)
  have later : said thread (leg :: last) = e :: said thread last := said_cons own he
  exact ⟨e, he, by rw [said_append, silent, List.nil_append, later]⟩

theorem added_of_admitted {p q : Progress ε} {legs : List (Leg ε)} {thread : Nat} {uuid : String}
    {subject : ε} {host : Option String} {answer : Bool} (run : Route s p legs q)
    (occupied : Occupied thread legs)
    (admitted : Admitted uuid subject host (said thread legs) answer) :
    Added thread uuid legs answer := by
  -- what the first leg is told is whether the uuid is under watch
  have atFirst {watched : Bool} {rest : List (Exchange (interface ε))}
      (split : said thread legs = ⟨.locked (.isWatched uuid), watched⟩ :: rest) :
      ∀ first leg last, legs = first ++ leg :: last → leg.thread = thread →
        (∀ other ∈ first, other.thread ≠ thread) →
        leg.before.watches.contains uuid = true → watched = true := by
    rintro first leg last rfl own others contained
    obtain ⟨e, he, head⟩ := said_first occupied own others
    rw [split, List.cons_eq_cons] at head
    obtain ⟨rfl, -⟩ := head
    obtain ⟨p', q', step, before, -⟩ :=
      step_of_mem run (List.mem_append_right _ (List.mem_cons_self ..))
    rw [(isWatched_of_step step he).1, before, contained]
  generalize ht : said thread legs = t at admitted atFirst
  cases admitted with
  | known =>
    have unchanged := unchanged_of_said run occupied (by
      rw [ht]
      intro e he
      rw [List.mem_singleton.1 he]
      trivial)
    refine ⟨fun _ => ?_, nofun, fun _ _ _ _ _ _ _ => ⟨rfl, ht, unchanged⟩⟩
    refine yes_of_said run (show said thread legs = [] ++ _ :: [] from ht) trivial
      (List.forall_mem_nil _) fun step he => ?_
    obtain ⟨watched, same⟩ := isWatched_of_step step he
    rw [same, ← watched]
  | @refused asked status entry learnt other =>
    have unchanged := unchanged_of_said run occupied (by
      rw [ht]
      intro e he
      rcases List.mem_cons.1 he with rfl | he
      · trivial
      rcases List.mem_append.1 he with he | he
      · exact looksOnly_of_learnt learnt e he
      · rw [List.mem_singleton.1 he]
        trivial)
    refine ⟨nofun, fun _ => unchanged, fun first leg last split own others contained => ?_⟩
    cases atFirst rfl first leg last split own others contained
  | @overtaken domid =>
    refine ⟨fun _ => ?_, nofun, fun first leg last split own others contained => ?_⟩
    · exact yes_of_said run (show said thread legs = [_, _, _] ++ _ :: [] from ht) trivial
        (List.forall_mem_nil _) fun step he => contains_of_enter step he
    · cases atFirst rfl first leg last split own others contained
  | @entered domid =>
    refine ⟨fun _ => ?_, nofun, fun first leg last split own others contained => ?_⟩
    · refine yes_of_said run (show said thread legs = [_, _, _] ++ _ :: [_] from ht) trivial ?_
        fun step he => contains_of_enter step he
      intro e he
      rw [List.mem_singleton.1 he]
      exact id
    · cases atFirst rfl first leg last split own others contained

/-- **Additions.** -/
theorem added_of_route {p q : Progress ε} {legs : List (Leg ε)} {thread : Nat} {uuid : String}
    {subject : ε} {host : Option String} (run : Route s p legs q) (occupied : Occupied thread legs)
    (begun : p.calls thread = Entry.call s (.add uuid subject host))
    (ended : q.calls thread = .done ()) :
    ∃ answer, Runs (add uuid subject host) (said thread legs) answer ∧
      Added thread uuid legs answer := by
  have rest : Runs (q.calls thread) [] () := ended ▸ .done ()
  have call := runs_said run occupied rest
  rw [begun, List.append_nil] at call
  obtain ⟨t, last, answer, split, added, returns⟩ := runs_bind.1 call
  obtain ⟨rfl, -⟩ := runs_pure_iff.1 returns
  rw [List.append_nil] at split
  rw [← split] at added
  exact ⟨answer, added, added_of_admitted run occupied (admitted_of_add added)⟩

/-! ## Whole runs -/

/-- A watch stands as long as no leg ends it. -/
theorem stands_or_left {p q : Progress ε} {legs : List (Leg ε)} (run : Route s p legs q)
    {uuid : String} {w : Watch ε} (hw : p.state.watches.find? uuid = some w) :
    (∃ w', q.state.watches.find? uuid = some w' ∧ w.Same w') ∨
      ∃ first leg last w', legs = first ++ leg :: last ∧
        leg.before.watches.find? uuid = some w' ∧ w.Same w' ∧
        leg.after.watches.find? uuid = none := by
  induction run generalizing w with
  | rest p => exact .inl ⟨w, hw, .refl w⟩
  | @leg p q r m more step _ ih =>
    rcases hq : q.state.watches.find? uuid with _ | w'
    · exact .inr ⟨[], _, more, w, rfl, hw, .refl w, hq⟩
    · have same := same_of_step step hw hq
      rcases ih hq with ⟨w'', hr, later⟩ | ⟨first, leg, last, w'', rfl, before, later, after⟩
      · exact .inl ⟨w'', hr, same.trans later⟩
      · exact .inr ⟨_ :: first, leg, last, w'', rfl, before, same.trans later, after⟩

/-- A watch that stands was there in the beginning, or was put up on the way. -/
theorem stood_or_put_up {p q : Progress ε} {legs : List (Leg ε)} (run : Route s p legs q)
    {uuid : String} {w : Watch ε} (hw : q.state.watches.find? uuid = some w) :
    (∃ w₀, p.state.watches.find? uuid = some w₀ ∧ w₀.Same w) ∨
      ∃ first leg last w₀, legs = first ++ leg :: last ∧
        leg.before.watches.find? uuid = none ∧ leg.after.watches.find? uuid = some w₀ ∧
        w₀.Same w := by
  induction run with
  | rest p => exact .inl ⟨w, hw, .refl w⟩
  | @leg p q r m more step _ ih =>
    rcases ih hw with ⟨w₀, hq, same⟩ | ⟨first, leg, last, w₀, rfl, before, after, same⟩
    · rcases hp : p.state.watches.find? uuid with _ | w₁
      · exact .inr ⟨[], _, more, w₀, rfl, hp, hq, same⟩
      · exact .inl ⟨w₁, rfl, (same_of_step step hp hq).trans same⟩
    · exact .inr ⟨_ :: first, leg, last, w₀, rfl, before, after, same⟩

/-- What a run does about who is under watch. -/
structure TrackingKept (s : Settings.Console) (legs : List (Leg ε)) (q : Progress ε) : Prop where
  /-- A watch is put up in an addition that has learnt just before that its subject runs, and in
  which domain. -/
  entered : ∀ earlier leg later, legs = earlier ++ leg :: later → ∀ uuid w,
    leg.before.watches.find? uuid = none → leg.after.watches.find? uuid = some w →
    ∃ domid, leg.exchange = some ⟨.locked (.enter uuid w.subject w.host domid), true⟩ ∧
      leg.InCall s earlier (.add uuid w.subject w.host)
        [⟨.locked (.isWatched uuid), false⟩, ⟨.powerState w.subject, .ok .running⟩,
          ⟨.domid w.subject, .ok (some domid)⟩]
  /-- A watch ends in a removal of its uuid, in a shutdown, or in a pass that has learnt just before
  that its subject has ended. -/
  left : ∀ earlier leg later, legs = earlier ++ leg :: later → ∀ uuid w,
    leg.before.watches.find? uuid = some w → leg.after.watches.find? uuid = none →
    (∃ told, leg.InCall s earlier (.remove uuid) told) ∨
    (∃ told, leg.InCall s earlier .shutdown told) ∨
    ∃ told state, state.isTerminal ∧
      leg.InCall s earlier .pass (told ++ [⟨.powerState w.subject, .ok state⟩])
  /-- In between it stays the watch that it is. -/
  stands : ∀ earlier later p, legs = earlier ++ later → Route s {} earlier p → Route s p later q →
    ∀ uuid w, p.state.watches.find? uuid = some w →
    (∃ w', q.state.watches.find? uuid = some w' ∧ w.Same w') ∨
      ∃ first leg last w', later = first ++ leg :: last ∧
        leg.before.watches.find? uuid = some w' ∧ w.Same w' ∧
        leg.after.watches.find? uuid = none
  /-- Whatever is under watch was put under watch. -/
  putUp : ∀ uuid w, q.state.watches.find? uuid = some w →
    ∃ first leg last w₀, legs = first ++ leg :: last ∧ leg.before.watches.find? uuid = none ∧
      leg.after.watches.find? uuid = some w₀ ∧ w₀.Same w
  /-- What the additions answer. -/
  added : ∀ first during last p r thread uuid subject host, legs = first ++ during ++ last →
    Route s p during r → p.calls thread = Entry.call s (.add uuid subject host) →
    Occupied thread during → r.calls thread = .done () →
    ∃ answer, Runs (add uuid subject host) (said thread during) answer ∧
      Added thread uuid during answer

theorem progress_of_split {q : Progress ε} {earlier later : List (Leg ε)} {leg : Leg ε}
    (run : Route s {} (earlier ++ leg :: later) q) :
    ∃ p m r, Route s {} earlier p ∧ Step s p m r ∧ leg = ⟨m, p.state, r.state⟩ := by
  obtain ⟨p, history, run⟩ := route_split run
  cases run with
  | leg step _ => exact ⟨p, _, _, history, step, rfl⟩

/-- **Who is under watch.** In every run of a monitor, whatever the subjects, the launcher and the
processes do, a watch is put up by an addition that found its subject running in a domain, and by
nothing else. It stands until its uuid is removed, the monitor is shut down, or a pass has asked its
subject and that has ended; no failure and no other answer ends it. An addition that answers yes
leaves the uuid under watch at its last look at the watches, one that answers no does nothing and
changes nothing, and one that finds the uuid under watch asks nobody. -/
theorem tracking_kept {legs : List (Leg ε)} {q : Progress ε} (run : Route s {} legs q) :
    TrackingKept s legs q := by
  refine ⟨fun earlier leg later split uuid w absent hw => ?_,
    fun earlier leg later split uuid w hw gone => ?_,
    fun _ _ _ _ _ rest _ _ hw => stands_or_left rest hw,
    fun uuid w hw => ?_,
    fun _ _ _ _ _ _ _ _ _ _ run begun occupied ended => added_of_route run occupied begun ended⟩
  · subst split
    obtain ⟨p, m, r, history, step, rfl⟩ := progress_of_split run
    exact entered_of_step history step absent hw
  · subst split
    obtain ⟨p, m, r, history, step, rfl⟩ := progress_of_split run
    exact left_of_step history step hw gone
  · rcases stood_or_put_up run hw with ⟨w₀, none, -⟩ | putUp
    · cases none
    · exact putUp

/-- A uuid that was removed is under watch because it was added again. -/
theorem tracking_kept_of_readded :
    TrackingKept {} (obey {} {} readded).1 (obey {} {} readded).2 ∧
    (obey {} {} readded).2.state.watches.contains "vm" = true ∧
    (obey {} {} readded).1.countP (fun leg => leg.before.watches.contains "vm" &&
      !leg.after.watches.contains "vm") = 1 :=
  ⟨tracking_kept (route_obey {} {} readded), by decide +kernel, by decide +kernel⟩

end Monitor

end Testbed.Console
