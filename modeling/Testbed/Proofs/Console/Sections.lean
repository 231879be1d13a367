import Testbed.Console.Interleaving
import Testbed.Proofs.Console.Dealings
/-!
# What the sections do

A section is what a call of the monitor does while it holds the lock. `Performed` lists everything
that each section can do, with its answer, its deeds and the state that it leaves; whatever is
proved about runs of the monitor goes by cases on that list, and no proof opens the text of a
section again.

Main statement: `performed_of_runs`, a section does nothing that is not on the list.
-/
namespace Testbed

namespace Registry

variable {α : Type}

theorem put_lookup {name : String} {a : α} {es : List (String × α)} (h : lookup name es = some a) :
    put name a es = es := by
  induction es with
  | nil => cases h
  | cons e es ih =>
    obtain ⟨n, b⟩ := e
    by_cases hn : n = name
    · subst hn
      obtain rfl : b = a := by simpa [lookup] using h
      simp [put]
    · rw [put, if_neg hn, ih (by simpa [lookup, hn] using h)]

/-- Putting what is there changes nothing. -/
theorem insert_find? {r : Registry α} {name : String} {a : α} (h : r.find? name = some a) :
    r.insert name a = r := by
  obtain ⟨es, distinct⟩ := r
  simp only [insert, mk.injEq]
  exact put_lookup h

theorem lookup_eq_none {name : String} {es : List (String × α)} :
    lookup name es = none ↔ name ∉ es.map Prod.fst := by
  induction es with
  | nil => simp [lookup]
  | cons e es ih =>
    by_cases h : e.1 = name
    · simp [lookup, h]
    · simp [lookup, h, ih, Ne.symm h]

theorem lookup_eq_some {name : String} {a : α} {es : List (String × α)}
    (distinct : (es.map Prod.fst).Nodup) : lookup name es = some a ↔ (name, a) ∈ es := by
  induction es with
  | nil => simp [lookup]
  | cons e es ih =>
    obtain ⟨n, b⟩ := e
    obtain ⟨absent, distinct⟩ := List.nodup_cons.1 distinct
    rw [lookup, List.mem_cons]
    by_cases h : n = name
    · subst h
      have others : (n, a) ∉ es := fun h => absent (List.mem_map.2 ⟨_, h, rfl⟩)
      simp [others, eq_comm]
    · simp [h, Ne.symm h, ih distinct]

theorem find?_eq_some {r : Registry α} {name : String} {a : α} :
    r.find? name = some a ↔ (name, a) ∈ r.entries := lookup_eq_some r.distinct

theorem contains_eq_false {r : Registry α} {name : String} :
    r.contains name = false ↔ r.find? name = none := by
  simp [contains]

end Registry

namespace Console.Monitor

open Program

variable {ε : Type}

/-- The state with the watch on a uuid as it is to be kept, or without it. -/
def State.resolve (st : State ε) (uuid : String) : Option (Watch ε) → State ε
  | some w => { st with watches := st.watches.insert uuid w }
  | none => { st with watches := st.watches.erase uuid }

@[simp] theorem find?_resolve (st : State ε) (uuid other : String) (outcome : Option (Watch ε)) :
    (st.resolve uuid outcome).watches.find? other =
      if uuid = other then outcome else st.watches.find? other := by
  cases outcome <;> simp [State.resolve]

@[simp] theorem nextId_resolve (st : State ε) (uuid : String) (outcome : Option (Watch ε)) :
    (st.resolve uuid outcome).nextId = st.nextId := by
  cases outcome <;> rfl

@[simp] theorem worker_resolve (st : State ε) (uuid : String) (outcome : Option (Watch ε)) :
    (st.resolve uuid outcome).worker = st.worker := by
  cases outcome <;> rfl

/-- A watch that is kept as it is leaves the state as it is. -/
theorem resolve_find? {st : State ε} {uuid : String} {w : Watch ε}
    (h : st.watches.find? uuid = some w) : st.resolve uuid (some w) = st := by
  simp only [State.resolve, Registry.insert_find? h]

/-- What a section can do in a state. -/
inductive Performed (s : Settings.Console) (st : State ε) :
    (c : Section ε) → c.Answer → Deeds ε → State ε → Prop
  | isWatched (uuid : String) :
      Performed s st (.isWatched uuid) (st.watches.contains uuid) [] st
  /-- The uuid has a watch already. -/
  | present {uuid : String} {w : Watch ε} (subject : ε) (host : Option String) (domid : Nat) :
      st.watches.find? uuid = some w → Performed s st (.enter uuid subject host domid) false [] st
  | entered {uuid : String} {subject : ε} {host : Option String} {domid : Nat} {deeds : Deeds ε}
      {place : String} {r : Option Recording} :
      st.watches.find? uuid = none →
      Watch.PlacedOn ⟨st.nextId, subject, host, none⟩ deeds place →
      Attempt place domid (dealings deeds) r →
      Performed s st (.enter uuid subject host domid) true deeds
        { st with
          watches := st.watches.insert uuid ⟨st.nextId, subject, host, r⟩
          nextId := st.nextId + 1 }
  | leave (uuid : String) :
      Performed s st (.leave uuid) ((st.watches.find? uuid).bind (·.recording)) []
        { st with watches := st.watches.erase uuid }
  | list : Performed s st .list st.visits [] st
  /-- The visited watch is gone, or another one has come in its place. -/
  | outdated {visit : Visit ε} (status : Except Fault Status) :
      (∀ w, st.watches.find? visit.uuid = some w → w.id ≠ visit.id) →
      Performed s st (.settle visit status) () [] st
  | settled {visit : Visit ε} {status : Except Fault Status} {w : Watch ε} {deeds : Deeds ε}
      {outcome : Option (Watch ε)} :
      st.watches.find? visit.uuid = some w → w.id = visit.id →
      Reconciled s w deeds status outcome →
      Performed s st (.settle visit status) () deeds (st.resolve visit.uuid outcome)
  | working : st.worker.isSome → Performed s st .startWorker () [] st
  | started {worker : Nat} :
      st.worker = none →
      Performed s st .startWorker () [⟨.startThread, .ok worker⟩] { st with worker := some worker }
  | notStarted {e : IoError} {deeds : Deeds ε} :
      st.worker = none → dealings deeds = [] →
      Performed s st .startWorker () (⟨.startThread, .error e⟩ :: deeds) st
  | takeWorker : Performed s st .takeWorker st.worker [] { st with worker := none }
  | clear : Performed s st .clear st.recordings [] { st with watches := .empty }

theorem resolved_of_reconcileVisit {s : Settings.Console} {st after : State ε} {visit : Visit ε}
    {w : Watch ε} {status : Except Fault Status} {deeds : Deeds ε}
    (hw : st.watches.find? visit.uuid = some w)
    (h : Runs (reconcileVisit s st visit w status) deeds after) :
    ∃ outcome, Reconciled s w deeds status outcome ∧ after = st.resolve visit.uuid outcome := by
  unfold reconcileVisit at h
  rcases status with fault | status
  · obtain ⟨t₁, t₂, _, rfl, h₁, h₂⟩ := runs_bind.1 h
    obtain ⟨rfl, rfl⟩ := runs_pure_iff.1 h₁
    obtain ⟨t₃, t₄, _, rfl, h₃, h₄⟩ := runs_bind.1 h₂
    obtain ⟨rfl, rfl⟩ := runs_pure_iff.1 h₄
    exact ⟨some w, .unknown fault (by simp [dealings_log h₃]), (resolve_find? hw).symm⟩
  · obtain ⟨t₁, t₂, res, rfl, h₁, h₂⟩ := runs_bind.1 h
    have reconciled := reconciled_of_reconcile h₁
    rcases res with e | kept
    · obtain ⟨t₃, t₄, _, rfl, h₃, h₄⟩ := runs_bind.1 h₂
      obtain ⟨rfl, rfl⟩ := runs_pure_iff.1 h₄
      refine ⟨some w, ?_, (resolve_find? hw).symm⟩
      exact reconciled.append (by simp [dealings_log h₃])
    · rcases kept with _ | w' <;>
      · obtain ⟨rfl, rfl⟩ := runs_pure_iff.1 h₂
        exact ⟨_, by simpa [Except.toOption] using reconciled, rfl⟩

/-- **Nothing else is done by a section.** -/
theorem performed_of_runs {s : Settings.Console} {st after : State ε} {c : Section ε} {a : c.Answer}
    {deeds : Deeds ε} (h : (c.perform s st).Runs deeds (a, after)) :
    Performed s st c a deeds after := by
  cases c with
  | isWatched uuid =>
    obtain ⟨rfl, ha⟩ := runs_pure_iff.1 h
    cases ha
    exact .isWatched uuid
  | enter uuid subject host domid =>
    unfold Section.perform at h
    rcases hw : st.watches.find? uuid with _ | w
    · have absent : st.watches.contains uuid = false := Registry.contains_eq_false.2 hw
      simp only [absent, Bool.false_eq_true, ↓reduceIte] at h
      obtain ⟨t₁, t₂, w, rfl, h₁, h₂⟩ := runs_bind.1 h
      obtain ⟨rfl, ha⟩ := runs_pure_iff.1 h₂
      cases ha
      obtain ⟨place, r, placed, attempt, rfl⟩ := attempt_of_record h₁
      rw [List.append_nil]
      exact .entered hw placed attempt
    · have present : st.watches.contains uuid = true := by simp [Registry.contains, hw]
      simp only [present, ↓reduceIte] at h
      obtain ⟨rfl, ha⟩ := runs_pure_iff.1 h
      cases ha
      exact .present subject host domid hw
  | leave uuid =>
    obtain ⟨rfl, ha⟩ := runs_pure_iff.1 h
    cases ha
    exact .leave uuid
  | list =>
    obtain ⟨rfl, ha⟩ := runs_pure_iff.1 h
    cases ha
    exact .list
  | settle visit status =>
    unfold Section.perform at h
    rcases hw : st.watches.find? visit.uuid with _ | w <;> simp only [hw] at h
    · obtain ⟨rfl, ha⟩ := runs_pure_iff.1 h
      cases ha
      exact .outdated status (by simp [hw])
    by_cases same : w.id = visit.id
    · simp only [same, ↓reduceIte] at h
      obtain ⟨t₁, t₂, st', rfl, h₁, h₂⟩ := runs_bind.1 h
      obtain ⟨rfl, ha⟩ := runs_pure_iff.1 h₂
      cases ha
      obtain ⟨outcome, reconciled, rfl⟩ := resolved_of_reconcileVisit hw h₁
      rw [List.append_nil]
      exact .settled hw same reconciled
    · simp only [same, ↓reduceIte] at h
      obtain ⟨rfl, ha⟩ := runs_pure_iff.1 h
      cases ha
      exact .outdated status (by simp [hw, same])
  | startWorker =>
    unfold Section.perform at h
    rcases hw : st.worker with _ | worker
    · simp only [hw, Option.isSome_none, Bool.false_eq_true, ↓reduceIte] at h
      obtain ⟨t₁, t₂, answer, rfl, h₁, h₂⟩ := runs_bind.1 h
      obtain rfl := runs_ask.1 h₁
      rcases answer with e | worker
      · obtain ⟨t₃, t₄, _, rfl, h₃, h₄⟩ := runs_bind.1 h₂
        obtain ⟨rfl, ha⟩ := runs_pure_iff.1 h₄
        cases ha
        exact .notStarted hw (by simp [dealings_log h₃])
      · obtain ⟨rfl, ha⟩ := runs_pure_iff.1 h₂
        cases ha
        exact .started hw
    · have working : st.worker.isSome = true := by simp [hw]
      simp only [working, ↓reduceIte] at h
      obtain ⟨rfl, ha⟩ := runs_pure_iff.1 h
      cases ha
      exact .working working
  | takeWorker =>
    obtain ⟨rfl, ha⟩ := runs_pure_iff.1 h
    cases ha
    exact .takeWorker
  | clear =>
    obtain ⟨rfl, ha⟩ := runs_pure_iff.1 h
    cases ha
    exact .clear

end Console.Monitor

end Testbed
