import Testbed.Proofs.Console.Conduct
import Testbed.Proofs.Console.Reconciliation
/-!
# A pass and its subjects, one by one

What a pass asks and does about a uuid is its account: the questions before its visit is settled
(`questionsFor`), and the deeds of settling it (`deedsFor`). The account of a uuid depends on its
watch and on how its own subject, processes and launcher answer, and on nothing else.

Main statements: `exists_lonePass`, a pass can be made whatever it is told about each uuid;
`pass_isolates`, two passes that find the same watch on a uuid, and are given the same answers about
it, do the same about it, whatever happens to the others and in whichever order they are visited.
-/
namespace Testbed.Console

open Program

/-- An answer of a subject that is that of a conduct. -/
def Conduct.Tells {ε : Type} (c : Conduct) : Exchange (Monitor.interface ε) → Prop
  | ⟨.powerState _, a⟩ => a = c.state
  | ⟨.domid _, a⟩ => a = c.domid
  | _ => True

instance {ε : Type} (c : Conduct) : (e : Exchange (Monitor.interface ε)) → Decidable (c.Tells e)
  | ⟨.powerState _, a⟩ => decEq (α := Except Fault PowerState) a c.state
  | ⟨.domid _, a⟩ => decEq (α := Except Fault (Option Nat)) a c.domid
  | ⟨.locked _, _⟩ | ⟨.stop _ _, _⟩ | ⟨.join _ _, _⟩ | ⟨.log _, _⟩ => .isTrue trivial

/-- What is learnt about a subject that answers by a conduct. -/
def Conduct.status (c : Conduct) : Except Fault Status :=
  match c.state with
  | .error fault => .error fault
  | .ok state =>
    if state.isTerminal then .ok ⟨state, none⟩ else c.domid.map fun domid => ⟨state, domid⟩

def Conduct.questions {ε : Type} (c : Conduct) (subject : ε) :
    List (Exchange (Monitor.interface ε)) :=
  ⟨.powerState subject, c.state⟩ :: match c.state with
    | .error _ => []
    | .ok state => if state.isTerminal then [] else [⟨.domid subject, c.domid⟩]

/-- The answers of a conduct. What it leaves open is answered somehow. -/
def Conduct.device (c : Conduct) : (r : Device.Request ε) → Device.Answer ε r
  | .hostOf _ => c.host
  | .launch host domid _ => (c.launch host domid).map fun _ => ⟨0, 0⟩
  | .process r => c.process r
  | .makeDirs _ => c.logDir
  | .openLog _ => c.log
  | r => ({} : Monitor.Answers).device r

theorem Conduct.does_device (c : Conduct) (r : Device.Request ε) : c.Does ⟨r, c.device r⟩ := by
  cases r with
  | launch host domid log =>
    change Except.map _ (Except.map _ _) = _
    rcases c.launch host domid with e | _ <;> rfl
  | hostOf | process | makeDirs | openLog => exact rfl
  | _ => trivial

theorem Conduct.tells_questions (c : Conduct) (subject : ε) :
    ∀ e ∈ c.questions subject, c.Tells e := by
  intro e he
  rcases List.mem_cons.1 he with rfl | he
  · exact rfl
  split at he
  · cases he
  · split at he
    · cases he
    · obtain rfl := List.mem_singleton.1 he
      exact rfl

namespace Monitor

variable {ε : Type} {s : Settings.Console} {c : Conduct}

/-! ## What is asked and done about a uuid -/

/-- The questions of a pass that are asked for the visit of a uuid: those since the visit before. -/
def questionsFor (uuid : String) :
    List (Exchange (interface ε)) → List (Exchange (interface ε)) → List (Exchange (interface ε))
  | _, [] => []
  | asked, ⟨.locked (.settle visit _), _⟩ :: rest =>
    (if visit.uuid = uuid then asked else []) ++ questionsFor uuid [] rest
  | _, ⟨.locked .list, _⟩ :: rest => questionsFor uuid [] rest
  | asked, e :: rest => questionsFor uuid (asked ++ [e]) rest

def deedsFor (uuid : String) (legs : List (Leg ε)) : Deeds ε :=
  legs.flatMap fun leg => if leg.uuid? = some uuid then leg.deeds else []

/-- What is asked to learn something is asked for the visit that is settled with it. -/
theorem questionsFor_learnt {subject : ε} {asked rest : List (Exchange (interface ε))}
    {status : Except Fault Status} (h : Learnt subject asked status) (uuid : String)
    (visit : Visit ε) :
    questionsFor uuid [] (asked ++ ⟨.locked (.settle visit status), ()⟩ :: rest) =
      (if visit.uuid = uuid then asked else []) ++ questionsFor uuid [] rest := by
  cases h <;> rfl

theorem questionsFor_of_unvisited {visits : List (Visit ε)} {t : List (Exchange (interface ε))}
    (h : Visited visits t) {uuid : String} (unvisited : uuid ∉ visits.map (·.uuid)) :
    questionsFor uuid [] t = [] := by
  induction h with
  | nil => rfl
  | cons learnt _ ih =>
    rw [List.map_cons, List.mem_cons, not_or] at unvisited
    rw [questionsFor_learnt learnt, if_neg (Ne.symm unvisited.1), ih unvisited.2]
    rfl

theorem questionsFor_of_visited {visits : List (Visit ε)} {t : List (Exchange (interface ε))}
    (h : Visited visits t) (distinct : (visits.map (·.uuid)).Nodup) {visit : Visit ε}
    (hv : visit ∈ visits) :
    ∃ status, Learnt visit.subject (questionsFor visit.uuid [] t) status ∧
      ⟨.locked (.settle visit status), ()⟩ ∈ t := by
  induction h with
  | nil => cases hv
  | @cons head visits asked rest status learnt visited ih =>
    obtain ⟨fresh, distinct⟩ := List.nodup_cons.1 distinct
    rw [questionsFor_learnt learnt]
    rcases List.mem_cons.1 hv with rfl | hv
    · refine ⟨status, ?_, List.mem_append_right _ (List.mem_cons_self ..)⟩
      rwa [if_pos rfl, questionsFor_of_unvisited visited fresh, List.append_nil]
    · have other : head.uuid ≠ visit.uuid := fun same =>
        fresh (List.mem_map.2 ⟨visit, hv, same.symm⟩)
      obtain ⟨status', learnt', settles⟩ := ih distinct hv
      rw [if_neg other]
      exact ⟨status', learnt', List.mem_append_right _ (List.mem_cons_of_mem _ settles)⟩

theorem deedsFor_append (uuid : String) (first last : List (Leg ε)) :
    deedsFor uuid (first ++ last) = deedsFor uuid first ++ deedsFor uuid last := List.flatMap_append

theorem deedsFor_of_others {uuid : String} {legs : List (Leg ε)}
    (h : ∀ leg ∈ legs, leg.uuid? ≠ some uuid) : deedsFor uuid legs = [] :=
  List.flatMap_eq_nil_iff.2 fun leg hleg => if_neg (h leg hleg)

/-! ## A pass that nothing comes between -/

/-- A thread makes a pass, from its beginning to its end, and no other thread does anything. -/
structure LonePass (s : Settings.Console) (p : Progress ε) (thread : Nat) (legs : List (Leg ε))
    (q : Progress ε) : Prop where
  begun : p.calls thread = pass
  run : Route s p legs q
  alone : Alone thread legs
  ended : q.calls thread = .done ()

variable {p p' q q' : Progress ε} {thread thread' : Nat} {legs legs' : List (Leg ε)}

theorem LonePass.visited (h : LonePass s p thread legs q) :
    ∃ t, said thread legs = ⟨.locked .list, p.state.visits⟩ :: t ∧ Visited p.state.visits t := by
  obtain ⟨m, later, mid, visits, rfl, step, -, -, run⟩ := route_ask h.run h.alone h.begun h.ended
  obtain ⟨own, goes⟩ := h.alone _ (List.mem_cons_self ..)
  obtain ⟨listed, -, -, visiting⟩ := lists_of_step step h.begun own goes
  have occupied : Occupied thread later := fun leg hleg _ =>
    (h.alone leg (List.mem_cons_of_mem _ hleg)).2
  have rest : Runs (q.calls thread) [] () := h.ended ▸ .done ()
  have asked := runs_said run occupied rest
  rw [visiting, List.append_nil] at asked
  exact ⟨said thread later, said_cons own listed, visited_of_visitAll asked⟩

theorem runs_of_settle {m : Move ε} (h : Step s p m q) {visit : Visit ε}
    {status : Except Fault Status}
    (hm : m.exchange = some ⟨.locked (.settle visit status), ()⟩) :
    Runs ((Section.settle visit status).perform s p.state) m.deeds ((), q.state) := by
  cases h with
  | start => cases hm
  | go asks serves =>
    cases hm
    cases serves with
    | locked run => exact run

/-- **The account of a watch.** Its subject is asked, and the deeds are those of settling its visit
with what was learnt. -/
theorem LonePass.account (h : LonePass s p thread legs q) {uuid : String} {w : Watch ε}
    (hw : p.state.watches.find? uuid = some w) :
    ∃ status before after, Learnt w.subject (questionsFor uuid [] (said thread legs)) status ∧
      before.watches.find? uuid = some w ∧
      Runs ((Section.settle ⟨uuid, w.id, w.subject⟩ status).perform s before)
        (deedsFor uuid legs) ((), after) ∧
      q.state.watches.find? uuid = after.watches.find? uuid := by
  obtain ⟨t, said_so, visited⟩ := h.visited
  obtain ⟨status, learnt, settles⟩ := questionsFor_of_visited visited (nodup_visits _)
    (mem_visits.2 ⟨w, hw, rfl, rfl⟩ : (⟨uuid, w.id, w.subject⟩ : Visit ε) ∈ p.state.visits)
  obtain ⟨first, asked, settling, later, _, _, rfl, -, -, found, -, settled, last, others⟩ :=
    (pass_reconciles_each h.begun h.run h.alone h.ended uuid).1 w hw
  -- the leg in which the visit is settled is the only one that is for the uuid
  have hm : settling.exchange = some ⟨.locked (.settle ⟨uuid, w.id, w.subject⟩ status), ()⟩ := by
    have mem : (⟨.locked (.settle ⟨uuid, w.id, w.subject⟩ status), ()⟩ : Exchange (interface ε)) ∈
        said thread (first ++ asked ++ settling :: later) := by
      rw [said_so]
      exact List.mem_cons_of_mem _ settles
    obtain ⟨leg, hleg, he⟩ := List.mem_filterMap.1 mem
    split at he
    · have own : leg.uuid? = some uuid := uuid_of_settle he
      rcases List.mem_append.1 hleg with hleg | hleg
      · exact absurd own (others leg (List.mem_append_left _ hleg)).1
      rcases List.mem_cons.1 hleg with rfl | hleg
      · exact he
      · exact absurd own (others leg (List.mem_append_right _ hleg)).1
    · cases he
  have earlier : deedsFor uuid (first ++ asked) = [] :=
    deedsFor_of_others fun leg hleg => (others leg (List.mem_append_left _ hleg)).1
  have afterwards : deedsFor uuid later = [] :=
    deedsFor_of_others fun leg hleg => (others leg (List.mem_append_right _ hleg)).1
  have deeds : deedsFor uuid (first ++ asked ++ settling :: later) = settling.deeds := by
    rw [deedsFor_append, earlier, ← List.singleton_append, deedsFor_append, afterwards]
    simp [deedsFor, uuid_of_settle hm]
  obtain ⟨p', q', step, before, after⟩ :=
    step_of_mem h.run (List.mem_append_right _ (List.mem_cons_self ..))
  refine ⟨status, settling.before, settling.after, ?_, found, ?_, last.trans settled.symm⟩
  · rw [said_so]
    exact learnt
  · rw [deeds, ← before, ← after]
    exact runs_of_settle step hm

theorem LonePass.untouched (h : LonePass s p thread legs q) {uuid : String}
    (absent : p.state.watches.find? uuid = none) :
    questionsFor uuid [] (said thread legs) = [] ∧ deedsFor uuid legs = [] ∧
      q.state.watches.find? uuid = none := by
  obtain ⟨last, others⟩ :=
    (pass_reconciles_each h.begun h.run h.alone h.ended uuid).2 absent
  obtain ⟨t, said_so, visited⟩ := h.visited
  refine ⟨?_, deedsFor_of_others others, last⟩
  rw [said_so]
  refine questionsFor_of_unvisited visited fun named => ?_
  obtain ⟨visit, hv, rfl⟩ := List.mem_map.1 named
  obtain ⟨w, hw, -⟩ := mem_visits.1 hv
  rw [absent] at hw
  cases hw

/-! ## A pass that is answered by conducts -/

/-- A uuid's subject, processes and launcher answer by a conduct in a pass. -/
structure Follows (c : Conduct) (uuid : String) (thread : Nat) (legs : List (Leg ε)) : Prop where
  tells : ∀ e ∈ questionsFor uuid [] (said thread legs), c.Tells e
  does : ∀ e ∈ deedsFor uuid legs, c.Does e

theorem learnt_questions (c : Conduct) (subject : ε) :
    Learnt subject (c.questions subject) c.status := by
  unfold Conduct.questions Conduct.status
  rcases c.state with fault | state
  · exact .silent fault
  dsimp only
  by_cases terminal : state.isTerminal
  · simp only [terminal, ↓reduceIte]
    exact .ended terminal
  · simp only [terminal, Bool.false_eq_true, ↓reduceIte]
    rcases c.domid with fault | domid
    · exact .unplaced fault terminal
    · exact .live domid terminal

/-- Visits can be made with the answers of conducts. -/
theorem exists_told (conducts : String → Conduct) (visits : List (Visit ε)) :
    ∃ t, Runs (visitAll visits) t () ∧
      ∀ uuid, ∀ e ∈ questionsFor uuid [] t, (conducts uuid).Tells e := by
  induction visits with
  | nil => exact ⟨[], .done (), by simp [questionsFor]⟩
  | cons visit visits ih =>
    obtain ⟨t, ran, tells⟩ := ih
    have learnt := learnt_questions (conducts visit.uuid) visit.subject
    refine ⟨(conducts visit.uuid).questions visit.subject ++
      ⟨.locked (.settle visit (conducts visit.uuid).status), ()⟩ :: t,
      runs_bind.2 ⟨_, _, _, rfl, runs_of_learnt learnt, .ask ran⟩, fun uuid e he => ?_⟩
    rw [questionsFor_learnt learnt, List.mem_append] at he
    rcases he with he | he
    · split at he
      case isTrue own => exact own ▸ (conducts visit.uuid).tells_questions visit.subject e he
      case isFalse => cases he
    · exact tells uuid e he

/-- A request of a pass can be answered in any way, with deeds that are answered by conducts. -/
theorem exists_serves (s : Settings.Console) (conducts : String → Conduct) (st : State ε)
    (thread : Nat) {visits : List (Visit ε)} {r : Request ε} (a : Answer ε r)
    (asks : AsksOf visits r) :
    ∃ deeds after, Serves s st r a deeds after ∧
      ∀ uuid, ∀ e ∈ deedsFor uuid [⟨⟨thread, some ⟨r, a⟩, deeds⟩, st, after⟩],
        (conducts uuid).Does e := by
  cases r with
  | powerState subject => exact ⟨[], st, .powerState subject a, by simp [deedsFor]⟩
  | domid subject => exact ⟨[], st, .domid subject a, by simp [deedsFor]⟩
  | locked c =>
    cases c with
    | settle visit status =>
      have run := runs_follow (I := Device.interface ε) (conducts visit.uuid).device
        ((Section.settle visit status).perform s st)
      refine ⟨_, _, .locked run, fun uuid e done => ?_⟩
      obtain ⟨leg, hleg, he⟩ := List.mem_flatMap.1 done
      obtain rfl := List.mem_singleton.1 hleg
      split at he
      case isTrue own =>
        obtain rfl : visit.uuid = uuid := Option.some.inj own
        exact forall_follow (I := Device.interface ε) (conducts visit.uuid).does_device _ e he
      case isFalse => cases he
    | _ => exact asks.elim
  | _ => exact asks.elim

/-- What is said in a pass can be said, and the deeds can be answered by conducts. -/
theorem exists_route_said (s : Settings.Console) (conducts : String → Conduct) {call : Call ε Unit}
    {t : List (Exchange (interface ε))} {done : Unit} (ran : Runs call t done)
    {visits : List (Visit ε)} (asks : ∀ e ∈ t, AsksOf visits e.request) {p : Progress ε}
    {thread : Nat} (doing : p.calls thread = call) :
    ∃ legs q, Route s p legs q ∧ Alone thread legs ∧ q.calls thread = .done () ∧
      said thread legs = t ∧ ∀ uuid, ∀ e ∈ deedsFor uuid legs, (conducts uuid).Does e := by
  induction ran generalizing p with
  | done => exact ⟨[], p, .rest p, by simp [Alone], doing, rfl, by simp [deedsFor]⟩
  | @ask r next a rest done ran ih =>
    obtain ⟨deeds, after, serves, does⟩ :=
      exists_serves s conducts p.state thread a (asks _ (List.mem_cons_self ..))
    obtain ⟨legs, q, run, alone, ended, said_so, does'⟩ :=
      ih (fun e he => asks e (List.mem_cons_of_mem _ he))
        (p := ({ p with state := after }.setCall thread (next a))) (if_pos rfl)
    refine ⟨_, q, .leg (.go doing serves) run, ?_, ended, ?_, fun uuid e he => ?_⟩
    · rintro leg (_ | ⟨_, hleg⟩)
      · exact ⟨rfl, rfl⟩
      · exact alone leg hleg
    · exact (said_cons rfl rfl).trans (congrArg _ said_so)
    · rw [← List.singleton_append, deedsFor_append, List.mem_append] at he
      exact he.elim (does uuid e) (does' uuid e)

/-- **A pass can be made whatever the subjects answer.** -/
theorem exists_lonePass (s : Settings.Console) {p : Progress ε} {thread : Nat}
    (begun : p.calls thread = pass) (conducts : String → Conduct) :
    ∃ legs q, LonePass s p thread legs q ∧ ∀ uuid, Follows (conducts uuid) uuid thread legs := by
  obtain ⟨t, ran, tells⟩ := exists_told conducts p.state.visits
  obtain ⟨legs, q, run, alone, ended, said_so, does⟩ :=
    exists_route_said s conducts ran (asksOf_of_visited (visited_of_visitAll ran))
      (p := p.setCall thread (visitAll p.state.visits)) (if_pos rfl)
  have asked : said thread
      (⟨⟨thread, some ⟨.locked .list, p.state.visits⟩, []⟩, p.state, p.state⟩ :: legs) =
      ⟨.locked .list, p.state.visits⟩ :: t := (said_cons rfl rfl).trans (congrArg _ said_so)
  refine ⟨_, q, ⟨begun, .leg (step_list begun) run, ?_, ended⟩, fun uuid => ⟨?_, does uuid⟩⟩
  · rintro leg (_ | ⟨_, hleg⟩)
    · exact ⟨rfl, rfl⟩
    · exact alone leg hleg
  · intro e he
    rw [state_setCall, asked] at he
    exact tells uuid e he

/-! ## Two passes -/

/-- What is learnt about a subject that answers by a conduct. -/
theorem learnt_of_tells {subject : ε} {asked : List (Exchange (interface ε))}
    {status : Except Fault Status} (h : Learnt subject asked status)
    (tells : ∀ e ∈ asked, c.Tells e) :
    status = c.status ∧ asked = c.questions subject := by
  obtain ⟨state, domid, _, _, _, _, _⟩ := c
  have first {rest : List (Exchange (interface ε))} {a : Except Fault PowerState}
      (h : asked = ⟨.powerState subject, a⟩ :: rest) : a = state :=
    tells ⟨.powerState subject, a⟩ (h ▸ List.mem_cons_self ..)
  have second {e : Exchange (interface ε)} {a : Except Fault (Option Nat)}
      (h : asked = [e, ⟨.domid subject, a⟩]) : a = domid :=
    tells ⟨.domid subject, a⟩ (h ▸ List.mem_cons_of_mem _ (List.mem_singleton_self _))
  cases h with
  | silent fault =>
    obtain rfl := first rfl
    exact ⟨rfl, rfl⟩
  | ended terminal =>
    obtain rfl := first rfl
    exact ⟨(if_pos terminal).symm, by simp only [Conduct.questions, if_pos terminal]⟩
  | unplaced fault live =>
    obtain rfl := first rfl
    obtain rfl : .error fault = domid := second rfl
    exact ⟨(if_neg live).symm, by simp only [Conduct.questions, if_neg live]⟩
  | live told live =>
    obtain rfl := first rfl
    obtain rfl : .ok told = domid := second rfl
    exact ⟨(if_neg live).symm, by simp only [Conduct.questions, if_neg live]⟩

theorem uniform_reconcileVisit {st st' : State ε} (visit : Visit ε) {w : Watch ε}
    (found : st.watches.find? visit.uuid = some w) (found' : st'.watches.find? visit.uuid = some w)
    (status : Except Fault Status) :
    Uniform c s visit.uuid
      (fun after after' => Option.Rel (SameWatch s visit.uuid)
        (after.watches.find? visit.uuid) (after'.watches.find? visit.uuid))
      (reconcileVisit s st visit w status) (reconcileVisit s st' visit w status) := by
  unfold reconcileVisit
  rcases status with fault | status <;>
    refine uniform_bind (Both (Option.Rel (SameWatch s visit.uuid))) ?_
      fun outcome outcome' both => ?_
  case error.refine_1 => exact uniform_done (.error _ _)
  case ok.refine_1 => exact uniform_reconcile w status
  all_goals
    cases both with
    | error e e' =>
      refine uniform_bind _ (uniform_log _ _ _ _) fun _ _ _ => uniform_done ?_
      rw [found, found']
      exact .some (.refl w)
    | ok same =>
      cases same with
      | none => exact uniform_done (by simp)
      | some same => exact uniform_done (by simpa using same)

theorem uniform_settle {st st' : State ε} {uuid : String} {w : Watch ε}
    (found : st.watches.find? uuid = some w) (found' : st'.watches.find? uuid = some w)
    (status : Except Fault Status) :
    Uniform c s uuid
      (fun r r' => Option.Rel (SameWatch s uuid) (r.2.watches.find? uuid) (r'.2.watches.find? uuid))
      ((Section.settle ⟨uuid, w.id, w.subject⟩ status).perform s st)
      ((Section.settle ⟨uuid, w.id, w.subject⟩ status).perform s st') := by
  simp only [Section.perform, found, found', ↓reduceIte]
  exact uniform_bind _ (uniform_reconcileVisit ⟨uuid, w.id, w.subject⟩ found found' status)
    fun _ _ same => uniform_done same

/-- Two passes do the same about a uuid: they ask the same and are told the same, they carry out the
same operations, and they leave the same watch, up to the moment in the name of a log and the label
of a process. -/
structure SameAccount (s : Settings.Console) (uuid : String) (thread thread' : Nat)
    (legs legs' : List (Leg ε)) (q q' : Progress ε) : Prop where
  questions : questionsFor uuid [] (said thread legs) = questionsFor uuid [] (said thread' legs')
  operations : List.Forall₂ (Alike s uuid) (operations (deedsFor uuid legs))
    (operations (deedsFor uuid legs'))
  outcome : Option.Rel (SameWatch s uuid) (q.state.watches.find? uuid)
    (q'.state.watches.find? uuid)

theorem sameAccount_of_follows (first : LonePass s p thread legs q)
    (second : LonePass s p' thread' legs' q') {uuid : String}
    (same : p.state.watches.find? uuid = p'.state.watches.find? uuid)
    (follows : p.state.watches.contains uuid →
      ∃ c, Follows c uuid thread legs ∧ Follows c uuid thread' legs') :
    SameAccount s uuid thread thread' legs legs' q q' := by
  rcases hw : p.state.watches.find? uuid with _ | w
  · obtain ⟨unasked, undone, absent⟩ := first.untouched hw
    obtain ⟨unasked', undone', absent'⟩ := second.untouched (same ▸ hw)
    refine ⟨by rw [unasked, unasked'], ?_, ?_⟩
    · rw [undone, undone']
      exact .nil
    · rw [absent, absent']
      exact .none
  · obtain ⟨c, ⟨tells, does⟩, ⟨tells', does'⟩⟩ := follows (by simp [Registry.contains, hw])
    obtain ⟨status, st, after, learnt, found, run, last⟩ := first.account hw
    obtain ⟨status', st', after', learnt', found', run', last'⟩ := second.account (same ▸ hw)
    obtain ⟨rfl, asked⟩ := learnt_of_tells learnt tells
    obtain ⟨rfl, asked'⟩ := learnt_of_tells learnt' tells'
    obtain ⟨operations, outcome⟩ := uniform_settle found found' _ _ _ _ _ run run' does does'
    refine ⟨asked.trans asked'.symm, operations, ?_⟩
    rw [last, last']
    exact outcome

theorem eq_none_of_rel {α : Type} {R : α → α → Prop} {x y : Option α} (h : Option.Rel R x y) :
    x = none ↔ y = none := by
  cases h <;> simp

/-- **Isolation and order.** Two passes that find the same watch on a uuid, and are given the same
answers about it, ask and do the same about it and leave the same watch on it, whatever they find
and are told about other uuids. So two passes over the same watches in different orders, with the
same answers about each, end with the same uuids under watch and do the same about every one.
Whatever answers are given about each uuid, a pass can be made with them, from its beginning to its
end. -/
theorem pass_isolates (first : LonePass s p thread legs q)
    (second : LonePass s p' thread' legs' q') :
    (∀ uuid, p.state.watches.find? uuid = p'.state.watches.find? uuid →
      (p.state.watches.contains uuid →
        ∃ c, Follows c uuid thread legs ∧ Follows c uuid thread' legs') →
      SameAccount s uuid thread thread' legs legs' q q') ∧
    (p.state.watches.entries.Perm p'.state.watches.entries →
      (∀ uuid, p.state.watches.contains uuid →
        ∃ c, Follows c uuid thread legs ∧ Follows c uuid thread' legs') →
      q.state.watched.Perm q'.state.watched ∧
        ∀ uuid, SameAccount s uuid thread thread' legs legs' q q') ∧
    ∀ conducts : String → Conduct, ∃ anew r, LonePass s p thread anew r ∧
      ∀ uuid, Follows (conducts uuid) uuid thread anew := by
  refine ⟨fun uuid same follows => sameAccount_of_follows first second same follows,
    fun reordered follows => ?_, exists_lonePass s first.begun⟩
  have same (uuid : String) : p.state.watches.find? uuid = p'.state.watches.find? uuid := by
    refine Option.ext fun w => ?_
    rw [Registry.find?_eq_some, Registry.find?_eq_some, reordered.mem_iff]
  have accounts (uuid : String) : SameAccount s uuid thread thread' legs legs' q q' :=
    sameAccount_of_follows first second (same uuid) (follows uuid)
  refine ⟨?_, accounts⟩
  refine (List.perm_ext_iff_of_nodup q.state.watches.distinct q'.state.watches.distinct).2
    fun uuid => ?_
  rw [← not_iff_not, ← Registry.lookup_eq_none, ← Registry.lookup_eq_none]
  exact eq_none_of_rel (accounts uuid).outcome

def recorded : String × Watch Nat := ("vm", ⟨0, 0, none, some ⟨7, "vm.log", ⟨1, 100⟩⟩⟩)

def unrecorded : String × Watch Nat := ("pc", ⟨1, 1, none, none⟩)

def begunOver (first second : String × Watch Nat) (distinct : [first.1, second.1].Nodup) :
    Progress Nat where
  state := { watches := ⟨[first, second], distinct⟩, nextId := 2 }
  calls := fun n => if n = 0 then pass else .done ()

def settleRecorded (p : Process) : List (Order Nat) :=
  [.go 0 {}, .go 0 { domid := .ok (some 8) }, .go 0 { launch := .ok p }]

def settleUnrecorded : List (Order Nat) :=
  [.go 0 { state := .error (.unexpected "state" "") }, .go 0 {}]

def oneWay : Progress Nat := begunOver recorded unrecorded (by decide)

def otherWay : Progress Nat := begunOver unrecorded recorded (by decide)

def oneOrder : List (Leg Nat) × Progress Nat :=
  obey {} oneWay (.go 0 {} :: settleRecorded ⟨3, 102⟩ ++ settleUnrecorded)

def otherOrder : List (Leg Nat) × Progress Nat :=
  obey {} otherWay (.go 0 {} :: settleUnrecorded ++ settleRecorded ⟨5, 204⟩)

def answering (state : Except Fault PowerState) : Conduct where
  state := state
  domid := .ok (some 8)
  host := "host"
  logDir := .ok ()
  log := .ok ()
  launch := fun _ _ => .ok ()
  process
    | .hasExited _ => .ok false
    | .terminate _ | .kill _ => .ok ()
    | .waitExit _ _ => .ok true
    | .log _ => ()

/-- In either order the recorded subject is recorded again, and the other is left as it is. -/
theorem same_in_other_order :
    (oneOrder.2.state.watches.find? "vm").map (·.recording.map (·.process)) =
      some (some ⟨3, 102⟩) ∧
    (otherOrder.2.state.watches.find? "vm").map (·.recording.map (·.process)) =
      some (some ⟨5, 204⟩) ∧
    oneOrder.2.state.watched.Perm otherOrder.2.state.watched ∧
    ∀ uuid, SameAccount {} uuid 0 0 oneOrder.1 otherOrder.1 oneOrder.2 otherOrder.2 := by
  refine ⟨by decide +kernel, by decide +kernel, ?_⟩
  have one : LonePass {} oneWay 0 oneOrder.1 oneOrder.2 :=
    ⟨rfl, route_obey {} _ _, by decide +kernel, eq_done_of_ended (by decide +kernel)⟩
  have other : LonePass {} otherWay 0 otherOrder.1 otherOrder.2 :=
    ⟨rfl, route_obey {} _ _, by decide +kernel, eq_done_of_ended (by decide +kernel)⟩
  refine (pass_isolates one other).2.1 (List.Perm.swap ..) fun uuid watched => ?_
  by_cases hv : uuid = "vm"
  · subst hv
    exact ⟨answering (.ok .running), ⟨by decide +kernel, by decide +kernel⟩,
      ⟨by decide +kernel, by decide +kernel⟩⟩
  by_cases hp : uuid = "pc"
  · subst hp
    exact ⟨answering (.error (.unexpected "state" "")), ⟨by decide +kernel, by decide +kernel⟩,
      ⟨by decide +kernel, by decide +kernel⟩⟩
  · have absent : oneWay.state.watches.contains uuid = false := by
      simp [oneWay, begunOver, recorded, unrecorded, Registry.contains, Registry.find?,
        Registry.lookup, Ne.symm hv, Ne.symm hp]
    rw [absent] at watched
    cases watched

end Monitor

end Testbed.Console
