import Testbed.Proofs.Console.Pass
import Testbed.Proofs.Console.Schedule
/-!
# Subjects that move

A recording streams the console of a domain on the host on which the domain was when the recording
was begun. Whether a pass begins another one is decided by the number of the domain and by whether
the process still runs; the host is not looked at. Main statements: `traced_of_route`, every
recording of a watch is the one that was begun last for its uuid; `recorded_here_iff`, a reconciled
watch is recorded where its subject is, unless its subject moved to a host on which its domain has
the same number.
-/
namespace Testbed.Console

open Program

variable {ε : Type} {s : Settings.Console}

/-! ## Watches that nothing goes wrong with -/

def Dealing.succeeded : Dealing → Bool
  | .unopened _ => false
  | .launch _ _ _ a => a.isOk
  | .exitCheck _ a | .waitExit _ _ a => a.isOk
  | .terminate _ a | .kill _ a => a.isOk

def hostsTold (deeds : List (Exchange (Device.interface ε))) : List String :=
  deeds.filterMap fun
    | ⟨.hostOf _, host⟩ => some host
    | _ => none

/-- A watch belongs on the host that it is bound to, or else on the one that its subject is on,
whenever it is asked. -/
def Watch.BelongsOn (w : Watch ε) (deeds : List (Exchange (Device.interface ε))) (host : String) :
    Prop :=
  match w.host with
  | some bound => host = bound
  | none => ∀ told ∈ hostsTold deeds, told = host

theorem Watch.PlacedOn.eq_of_belongsOn {w : Watch ε}
    {deeds : List (Exchange (Device.interface ε))} {place host : String}
    (placed : w.PlacedOn deeds place) (belongs : w.BelongsOn deeds host) : place = host := by
  unfold Watch.PlacedOn at placed
  unfold Watch.BelongsOn at belongs
  rcases hw : w.host with _ | bound <;> rw [hw] at placed belongs
  · exact belongs place (List.mem_filterMap.2 ⟨_, placed, rfl⟩)
  · exact placed.trans belongs.symm

theorem Attempt.exists_of_succeeded {host : String} {domid : Nat} {ds : List Dealing}
    {r : Option Recording} (h : Attempt host domid ds r) (succeeded : ∀ d ∈ ds, d.succeeded) :
    ∃ r', r = some r' ∧ r'.domid = domid := by
  cases h with
  | unopened | refused => simp [Dealing.succeeded, Except.isOk, Except.toBool] at succeeded
  | attached log p => exact ⟨_, rfl, rfl⟩

theorem Attempt.not_exitCheck {host : String} {domid : Nat} {ds : List Dealing}
    {r : Option Recording} (h : Attempt host domid ds r) (p : Process) (a : Except IoError Bool) :
    .exitCheck p a ∉ ds := by
  cases h <;> simp

theorem Stopping.not_exitCheck {p' : Process} {grace : Duration} {ds : List Dealing}
    (h : Stopping p' grace ds) (p : Process) (a : Except IoError Bool) : .exitCheck p a ∉ ds := by
  cases h <;> simp

/-- The recording of a watch that nothing goes wrong with is the old one, of the domain that is
reported and with a running process, or a new one if the old one was not such. -/
theorem Reconciled.recording_of_succeeded {w : Watch ε}
    {deeds : List (Exchange (Device.interface ε))} {state : PowerState} {domid : Nat}
    {outcome : Option (Watch ε)} (h : Reconciled s w deeds (.ok ⟨state, some domid⟩) outcome)
    (live : ¬ state.isTerminal) (succeeded : ∀ d ∈ dealings deeds, d.succeeded) :
    (∃ r, w.recording = some r ∧ r.domid = domid ∧
      .exitCheck r.process (.ok false) ∈ dealings deeds ∧
      (dealings deeds).filterMap Dealing.recorded = [] ∧ outcome = some w) ∨
    (∃ host r, w.PlacedOn deeds host ∧ r.domid = domid ∧
      (dealings deeds).filterMap Dealing.recorded = [(host, r)] ∧
      outcome = some { w with recording := some r } ∧
      ∀ old, w.recording = some old → old.domid = domid →
        .exitCheck old.process (.ok false) ∉ dealings deeds) := by
  cases h with
  | ended terminal => exact absurd terminal live
  | unchecked e _ _ hd => simp [hd, Dealing.succeeded, Except.isOk, Except.toBool] at succeeded
  | kept _ hw hd => exact .inl ⟨_, hw, rfl, by simp [hd], by simp [hd, Dealing.recorded], rfl⟩
  | begun _ hw placed attempt =>
    obtain ⟨r, rfl, hr⟩ := attempt.exists_of_succeeded succeeded
    refine .inr ⟨_, r, placed, hr, attempt.recorded, rfl, fun old hold => ?_⟩
    rw [hw] at hold
    cases hold
  | @replaced _ _ r₀ exited stops starts host r' _ hw stale hd stopping placed attempt =>
    rw [hd] at succeeded
    have started : ∀ d ∈ starts, d.succeeded := fun d hd =>
      succeeded d (List.mem_cons_of_mem _ (List.mem_append_right _ hd))
    obtain ⟨r, rfl, hr⟩ := attempt.exists_of_succeeded started
    have begun : (dealings deeds).filterMap Dealing.recorded = [(host, r)] := by
      rw [hd, List.filterMap_cons, List.filterMap_append, stopping.recorded, attempt.recorded]
      rfl
    refine .inr ⟨host, r, placed, hr, begun, rfl, fun old hold same => ?_⟩
    rw [hw] at hold
    cases hold
    rw [hd, List.mem_cons, List.mem_append]
    rintro (running | stopped | started)
    · cases running
      rcases stale with stale | stale
      · cases stale
      · exact stale same.symm
    · exact stopping.not_exitCheck _ _ stopped
    · exact attempt.not_exitCheck _ _ started

namespace Monitor

/-! ## Where recordings come from -/

/-- The recording that was begun last for a uuid, and its host. -/
def lastLaunch (uuid : String) (legs : List (Leg ε)) : Option (String × Recording) :=
  (legs.flatMap (·.recordings uuid)).getLast?

theorem lastLaunch_append (uuid : String) (first second : List (Leg ε)) :
    lastLaunch uuid (first ++ second) = (lastLaunch uuid second).or (lastLaunch uuid first) := by
  rw [lastLaunch, List.flatMap_append, List.getLast?_append]
  rfl

/-- Legs that begin no recording for a uuid. -/
theorem lastLaunch_eq_none {uuid : String} {legs : List (Leg ε)}
    (quiet : ∀ leg ∈ legs, leg.recordings uuid = []) : lastLaunch uuid legs = none := by
  rw [lastLaunch, List.flatMap_eq_nil_iff.2 quiet]
  rfl

theorem lastLaunch_singleton {uuid : String} {leg : Leg ε} {launch : String × Recording}
    (h : leg.recordings uuid = [launch]) : lastLaunch uuid [leg] = some launch := by
  simp [lastLaunch, h]

/-- Every recording is the one that was begun last for its uuid; that of a watch that is bound to a
host was begun there. -/
def State.Traced (st : State ε) (legs : List (Leg ε)) : Prop :=
  ∀ uuid w r, st.watches.find? uuid = some w → w.recording = some r →
    ∃ host, lastLaunch uuid legs = some (host, r) ∧ ∀ bound, w.host = some bound → host = bound

theorem traced_of_step {p q : Progress ε} {m : Move ε} (h : Step s p m q) {earlier : List (Leg ε)}
    (traced : p.state.Traced earlier) :
    q.state.Traced (earlier ++ [⟨m, p.state, q.state⟩]) := by
  intro uuid w r hw hr
  have stays {w₀ : Watch ε} (hw₀ : p.state.watches.find? uuid = some w₀) (same : w = w₀)
      (quiet : m.recordings uuid = []) :
      ∃ host, lastLaunch uuid (earlier ++ [⟨m, p.state, q.state⟩]) = some (host, r) ∧
        ∀ bound, w.host = some bound → host = bound := by
    subst same
    obtain ⟨host, last, bound⟩ := traced uuid w r hw₀ hr
    refine ⟨host, ?_, bound⟩
    rw [lastLaunch_append, lastLaunch_eq_none (by simpa using quiet)]
    exact last
  have begins {host : String} (placed : w.PlacedOn m.deeds host)
      (begun : m.recordings uuid = (w.recording.map (host, ·)).toList) :
      ∃ host, lastLaunch uuid (earlier ++ [⟨m, p.state, q.state⟩]) = some (host, r) ∧
        ∀ bound, w.host = some bound → host = bound := by
    rw [hr] at begun
    refine ⟨host, ?_, fun bound hb => placed.bound hb⟩
    rw [lastLaunch_append, lastLaunch_singleton begun]
    rfl
  cases leaves_of_step h hw with
  | stood hw quiet => exact stays hw rfl quiet
  | entered hm absent hid placed attempt =>
    refine begins placed ?_
    rw [recordings_of_uuid (uuid_of_enter hm)]
    exact attempt.recorded
  | settled hm hv found same reconciled =>
    have own := recordings_of_uuid (hv ▸ uuid_of_settle hm)
    rcases reconciled.recorded with ⟨same, quiet⟩ | none | ⟨host, placed, begun⟩
    · exact stays found same (own.trans quiet)
    · rw [none] at hr
      cases hr
    · exact begins placed (own.trans begun)

theorem traced_of_route {p q : Progress ε} {earlier legs : List (Leg ε)} (run : Route s p legs q)
    (traced : p.state.Traced earlier) : q.state.Traced (earlier ++ legs) := by
  induction run generalizing earlier with
  | rest p => simpa using traced
  | leg step _ ih =>
    have later := ih (traced_of_step step traced)
    rwa [List.append_assoc] at later

/-! ## Passes over subjects that move -/

/-- What a move applies to a watch that was visited. -/
def Move.applied? (m : Move ε) : Option (Visit ε × Status) :=
  match m.exchange with
  | some ⟨.locked (.settle visit (.ok status)), _⟩ => some (visit, status)
  | _ => none

theorem exchange_of_applied {m : Move ε} {visit : Visit ε} {status : Status}
    (h : m.applied? = some (visit, status)) :
    m.exchange = some ⟨.locked (.settle visit (.ok status)), ()⟩ := by
  unfold Move.applied? at h
  split at h
  · cases h
    assumption
  · cases h

/-- The recording of a watch runs on although its subject has moved: the watch is not bound to a
host, the recorded domain has the number that is reported, its process was found running, and it was
launched somewhere else. -/
structure Overlooked (uuid : String) (earlier : List (Leg ε)) (settling : Leg ε) (w : Watch ε)
    (domid : Nat) (here : String) : Prop where
  unbound : w.host = none
  running : ∃ r elsewhere, w.recording = some r ∧ r.domid = domid ∧
    .exitCheck r.process (.ok false) ∈ dealings settling.deeds ∧
    lastLaunch uuid earlier = some (elsewhere, r) ∧ elsewhere ≠ here

/-- **Recorded where it is.** In any run of a monitor, let a live subject be reconciled without
anything going wrong, and nobody deal with its uuid after that. Its watch is then recorded, in the
domain that was reported and by the process that was launched last for it; that was launched on the
host that the watch belongs on, unless a move was overlooked. -/
theorem recorded_here_iff {q : Progress ε} {earlier later : List (Leg ε)} {settling : Leg ε}
    {visit : Visit ε} {state : PowerState} {domid : Nat} {w : Watch ε} {here : String}
    (run : Route s {} (earlier ++ settling :: later) q)
    (applied : settling.applied? = some (visit, ⟨state, some domid⟩)) (live : ¬ state.isTerminal)
    (found : settling.before.watches.find? visit.uuid = some w) (same : w.id = visit.id)
    (succeeded : ∀ d ∈ dealings settling.deeds, d.succeeded)
    (belongs : w.BelongsOn settling.deeds here)
    (undisturbed : ∀ leg ∈ later, leg.uuid? ≠ some visit.uuid ∧
      leg.after.watches.find? visit.uuid = leg.before.watches.find? visit.uuid) :
    ∃ r host, q.state.watches.find? visit.uuid = some { w with recording := some r } ∧
      r.domid = domid ∧
      lastLaunch visit.uuid (earlier ++ settling :: later) = some (host, r) ∧
      (host = here ↔ ¬ Overlooked visit.uuid earlier settling w domid here) := by
  obtain ⟨p, history, run⟩ := route_split run
  have traced : p.state.Traced earlier := by
    have start : (({} : Progress ε).state).Traced [] := fun uuid w r hw => by cases hw
    simpa using traced_of_route history start
  cases run with
  | @leg _ mid _ m _ step run =>
    have hm := exchange_of_applied applied
    have own : m.uuid? = some visit.uuid := uuid_of_settle hm
    have settles : Leg.Visits s [visit] ⟨m, p.state, mid.state⟩ :=
      visits_of_step step hm (List.mem_singleton_self _)
    obtain ⟨outcome, reconciled, after⟩ := settles.applied hm found same
    have last : q.state.watches.find? visit.uuid = outcome := by
      have later := route_frame run (·.watches.find? visit.uuid) fun leg h => (undisturbed leg h).2
      change mid.state = _ at after
      rw [later, after, find?_resolve, if_pos rfl]
    have quiet : lastLaunch visit.uuid later = none :=
      lastLaunch_eq_none fun leg h => recordings_of_other (undisturbed leg h).1
    have launched : lastLaunch visit.uuid (earlier ++ ⟨m, p.state, mid.state⟩ :: later) =
        (lastLaunch visit.uuid [⟨m, p.state, mid.state⟩]).or (lastLaunch visit.uuid earlier) := by
      rw [← List.singleton_append, lastLaunch_append, lastLaunch_append, quiet]
      rfl
    rcases reconciled.recording_of_succeeded live succeeded with
      ⟨r, hr, hd, running, kept, rfl⟩ | ⟨host, r, placed, hd, begun, rfl, stale⟩
    · obtain ⟨host, traced, bound⟩ := traced visit.uuid w r found hr
      have nothing : lastLaunch visit.uuid [⟨m, p.state, mid.state⟩] = none :=
        lastLaunch_eq_none (by simpa [recordings_of_uuid own] using kept)
      refine ⟨r, host, by rw [last, ← hr], hd, by rw [launched, nothing, traced]; rfl, ?_, ?_⟩
      · rintro rfl ⟨-, r', elsewhere, -, -, -, traced', moved⟩
        rw [traced] at traced'
        cases traced'
        exact moved rfl
      · intro seen
        refine Decidable.byContradiction fun moved => ?_
        refine seen ⟨?_, r, host, hr, hd, running, traced, moved⟩
        rcases hw : w.host with _ | place
        · rfl
        · have : here = place := by simpa [Watch.BelongsOn, hw] using belongs
          exact absurd ((bound place hw).trans this.symm) moved
    · have begun : lastLaunch visit.uuid [⟨m, p.state, mid.state⟩] = some (host, r) :=
        lastLaunch_singleton ((recordings_of_uuid own).trans begun)
      refine ⟨r, host, last, hd, by rw [launched, begun]; rfl, fun _ overlooked => ?_, fun _ => ?_⟩
      · obtain ⟨-, old, elsewhere, hold, same, running, -⟩ := overlooked
        exact stale old hold same running
      · exact placed.eq_of_belongsOn belongs

def afterMove (domid : Nat) : List (Leg Unit) × Progress Unit :=
  obey {} {} (added ++ [.call 0 .pass, .go 0 {}, .go 0 {}, .go 0 { domid := .ok (some domid) },
    .go 0 { host := "elsewhere", launch := .ok ⟨3, 102⟩ }])

def beforeMove : Watch Unit :=
  ⟨0, (), none, some ⟨7, "console_logs/host_vm_20240131-235959.042.log", ⟨1, 100⟩⟩⟩

theorem afterMove_ne_nil (domid : Nat) : (afterMove domid).1 ≠ [] := List.cons_ne_nil _ _

def settlingMove (domid : Nat) : Leg Unit := (afterMove domid).1.getLast (afterMove_ne_nil domid)

theorem dropLast_afterMove (domid : Nat) :
    (afterMove domid).1.dropLast ++ [settlingMove domid] = (afterMove domid).1 :=
  List.dropLast_concat_getLast _

theorem route_afterMove (domid : Nat) :
    Route {} {} ((afterMove domid).1.dropLast ++ [settlingMove domid]) (afterMove domid).2 := by
  rw [dropLast_afterMove]
  exact route_obey {} {} _

/-- A new number gives the move away. -/
theorem recorded_elsewhere : ∃ r,
    (afterMove 8).2.state.watches.find? "vm" = some { beforeMove with recording := some r } ∧
    r.domid = 8 ∧ lastLaunch "vm" (afterMove 8).1 = some ("elsewhere", r) := by
  have applied : (settlingMove 8).applied? = some (⟨"vm", 0, ()⟩, ⟨.running, some 8⟩) := by
    decide +kernel
  have found : (settlingMove 8).before.watches.find? "vm" = some beforeMove := by decide +kernel
  have belongs : beforeMove.BelongsOn (settlingMove 8).deeds "elsewhere" :=
    show ∀ told ∈ hostsTold _, told = "elsewhere" by decide +kernel
  obtain ⟨r, host, last, hd, launched, here⟩ := recorded_here_iff (route_afterMove 8) applied
    (by decide) found rfl (by decide +kernel) belongs (by simp)
  refine ⟨r, last, hd, ?_⟩
  rw [dropLast_afterMove] at launched
  rw [launched, here.2 fun ⟨_, r', _, hr, same, _⟩ => ?_]
  cases hr
  cases same

/-- The same number hides it: the recording goes on where the subject was. -/
theorem not_always_recorded_here :
    ¬ ∀ {q : Progress Unit} {earlier later : List (Leg Unit)} {settling : Leg Unit}
      {visit : Visit Unit} {state : PowerState} {domid : Nat} {w : Watch Unit} {here : String},
      Route {} {} (earlier ++ settling :: later) q →
      settling.applied? = some (visit, ⟨state, some domid⟩) → ¬ state.isTerminal →
      settling.before.watches.find? visit.uuid = some w → w.id = visit.id →
      (∀ d ∈ dealings settling.deeds, d.succeeded) → w.BelongsOn settling.deeds here →
      (∀ leg ∈ later, leg.uuid? ≠ some visit.uuid ∧
        leg.after.watches.find? visit.uuid = leg.before.watches.find? visit.uuid) →
      ∃ r, q.state.watches.find? visit.uuid = some { w with recording := some r } ∧
        r.domid = domid ∧
        lastLaunch visit.uuid (earlier ++ settling :: later) = some (here, r) := by
  intro promised
  have applied : (settlingMove 7).applied? = some (⟨"vm", 0, ()⟩, ⟨.running, some 7⟩) := by
    decide +kernel
  have found : (settlingMove 7).before.watches.find? "vm" = some beforeMove := by decide +kernel
  have belongs : beforeMove.BelongsOn (settlingMove 7).deeds "elsewhere" :=
    show ∀ told ∈ hostsTold _, told = "elsewhere" by decide +kernel
  obtain ⟨r, -, -, launched⟩ := promised (route_afterMove 7) applied (by decide) found rfl
    (by decide +kernel) belongs (by simp)
  rw [dropLast_afterMove] at launched
  have still : (lastLaunch "vm" (afterMove 7).1).map Prod.fst = some "host" := by decide +kernel
  rw [launched] at still
  have still : "elsewhere" = "host" := Option.some.inj still
  exact absurd still (by decide)

end Monitor

end Testbed.Console
