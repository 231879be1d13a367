import Mathlib.Data.List.Nodup
import Testbed.Proofs.Console.Handover
/-!
# How stops end

A stop asks a process to exit and awaits its exit. It ends in one of three ways: the process is seen
to be gone, it is killed, or it is given up, because it could not be asked or its exit could not be
awaited. Main statements: `finished_of_stops`, every stop ends in one of these ways;
`launches_perm_ended`, the ledger of processes by the ways in which they ended;
`exited_or_killed_iff`, a process that was stopped has exited or was killed, unless it was given up;
`not_always_exited_or_killed`, it can be given up while it lives, and another is launched beside it.
-/
namespace Testbed.Console

open Program

variable {ε : Type} {s : Settings.Console}

namespace Dealing

def killed : Dealing → Option Process
  | .kill p _ => some p
  | _ => none

/-- The process that a dealing finds gone within its grace period. -/
def seenGone : Dealing → Option Process
  | .waitExit p _ (.ok true) => some p
  | _ => none

/-- The process that a dealing fails to ask or to await, so that its stop goes no further. -/
def givenUp : Dealing → Option Process
  | .terminate p (.error _) | .waitExit p _ (.error _) => some p
  | _ => none

end Dealing

/-! ## Dealings in which every stop ends -/

/-- Every process that is stopped in the dealings is killed, seen to be gone or given up in them. -/
def Finished (ds : List Dealing) : Prop :=
  (ds.filterMap Dealing.stopped).Perm
    (ds.filterMap Dealing.killed ++ ds.filterMap Dealing.seenGone ++ ds.filterMap Dealing.givenUp)

theorem finished_nil : Finished [] := .nil

theorem Finished.append {first second : List Dealing} (h₁ : Finished first) (h₂ : Finished second) :
    Finished (first ++ second) := by
  refine List.perm_iff_count.2 fun p => ?_
  have first := h₁.count_eq p
  have second := h₂.count_eq p
  simp only [List.filterMap_append, List.count_append] at first second ⊢
  omega

theorem Stopping.finished {p : Process} {grace : Duration} {ds : List Dealing}
    (h : Stopping p grace ds) : Finished ds := by
  cases h <;> exact .refl _

theorem finished_exitCheck (p : Process) (a : Except IoError Bool) :
    Finished [.exitCheck p a] := .nil

theorem Attempt.finished {host : String} {domid : Nat} {ds : List Dealing} {r : Option Recording}
    (h : Attempt host domid ds r) : Finished ds := by
  cases h <;> exact .nil

theorem Released.finished {r : Option Recording} {ds : List Dealing} (h : Released s r ds) :
    Finished ds := by
  rcases r with _ | r
  · obtain rfl : ds = [] := h
    exact finished_nil
  · exact Stopping.finished h

theorem Cleared.finished {r : Option Recording} {ds : List Dealing} (h : Cleared s r ds) :
    Finished ds := by
  cases h with
  | nothing => exact finished_nil
  | replaced stopping => exact (finished_exitCheck _ _).append stopping.finished

theorem Reconciled.finished {w : Watch ε} {deeds : List (Exchange (Device.interface ε))}
    {status : Except Fault Status} {outcome : Option (Watch ε)}
    (h : Reconciled s w deeds status outcome) : Finished (dealings deeds) := by
  cases h with
  | unknown _ hd | waiting _ _ hd => exact hd ▸ finished_nil
  | ended _ released => exact Released.finished released
  | begun _ _ _ attempt => exact attempt.finished
  | unchecked _ _ _ hd | kept _ _ hd => exact hd ▸ finished_exitCheck _ _
  | lost _ _ hd stopping =>
    rw [hd]
    exact (finished_exitCheck _ _).append stopping.finished
  | replaced _ _ _ hd stopping _ attempt =>
    rw [hd]
    exact (finished_exitCheck _ _).append (stopping.finished.append attempt.finished)

namespace Monitor

/-! ## Runs -/

theorem finished_of_step {p q : Progress ε} {m : Move ε} (h : Step s p m q) :
    Finished (dealings m.deeds) := by
  cases h with
  | start => exact finished_nil
  | go asks serves =>
    cases serves with
    | locked run =>
      cases performed_of_runs run with
      | entered _ _ attempt => exact attempt.finished
      | settled _ _ reconciled => exact reconciled.finished
      | @notStarted e deeds _ quiet =>
        have nothing : dealings (⟨.startThread, .error e⟩ :: deeds) = [] := quiet
        exact nothing ▸ finished_nil
      | _ => exact finished_nil
    | stop run => exact (stopping_of_stopRecording run).finished
    | _ => exact finished_nil

/-- The processes that some of the dealings for a uuid are with: the dealings of a run, and those of
the step that is under way. -/
def soFar (of : Dealing → Option Process) (uuid : String) (ms : List (Move ε))
    (next : List Dealing) : List Process :=
  under uuid (ms.flatMap (Move.processes of)) ++ next.filterMap of

@[simp] theorem soFar_nil (of : Dealing → Option Process) (uuid : String) (next : List Dealing) :
    soFar (ε := ε) of uuid [] next = next.filterMap of := List.nil_append _

theorem soFar_cons (of : Dealing → Option Process) (uuid : String) (m : Move ε)
    (more : List (Move ε)) (next : List Dealing) :
    soFar of uuid (m :: more) next =
      (if m.uuid? = some uuid then (dealings m.deeds).filterMap of else []) ++
        soFar of uuid more next := by
  rw [soFar, List.flatMap_cons, under_append, List.append_assoc, soFar]
  congr 1
  unfold Move.processes
  rcases m.uuid? with _ | name
  · rfl
  · simp

/-- **Every stop ends**, in one of the three ways. -/
theorem finished_of_steps {p q : Progress ε} {ms : List (Move ε)} (run : Steps s p ms q)
    (uuid : String) {next : List Dealing} (h : Finished next) :
    (soFar Dealing.stopped uuid ms next).Perm
      (soFar Dealing.killed uuid ms next ++ soFar Dealing.seenGone uuid ms next ++
        soFar Dealing.givenUp uuid ms next) := by
  induction run with
  | rest =>
    rw [soFar_nil, soFar_nil, soFar_nil, soFar_nil]
    exact h
  | @move p q r m more step _ ih =>
    refine List.perm_iff_count.2 fun x => ?_
    have first := (finished_of_step step).count_eq x
    have later := ih.count_eq x
    by_cases own : m.uuid? = some uuid <;>
      simp only [soFar_cons, own, if_true, if_false, List.nil_append, List.count_append]
        at first later ⊢ <;>
      omega

/-- **The ledger by endings.** What was launched for a uuid was killed, was seen to be gone, was
given up, waits to be stopped by the call that it was handed over to, or records the uuid. -/
theorem launches_perm_finished {p : Progress ε} {ms : List (Move ε)} (run : Steps s {} ms p)
    (uuid : String) :
    (under uuid (launches ms)).Perm
      (soFar Dealing.killed uuid ms [] ++ soFar Dealing.seenGone uuid ms [] ++
        soFar Dealing.givenUp uuid ms [] ++
        (under uuid (processes (pending ms)) ++ (p.state.attached uuid).toList)) := by
  have books := launches_perm_pending run uuid
  have ends := finished_of_steps run uuid finished_nil
  have stopped : soFar Dealing.stopped uuid ms [] = under uuid (stops ms) := List.append_nil _
  rw [List.append_assoc] at books
  rw [stopped] at ends
  exact books.trans (ends.append_right _)

/-- A process that is launched once has exited or is killed, unless it was given up or its stop has
not begun. -/
theorem exited_or_killed_of_books {launched killed seenGone givenUp unstopped : List Process}
    (books : launched.Perm (killed ++ seenGone ++ givenUp ++ unstopped)) (own : launched.Nodup)
    {gone : Process → Prop} (honest : ∀ p ∈ seenGone, gone p) {p : Process} (h : p ∈ launched) :
    (gone p ∨ p ∈ killed) ↔ (gone p ∨ p ∉ givenUp ∧ p ∉ unstopped) := by
  by_cases exited : gone p
  · simp [exited]
  have unseen : seenGone.count p = 0 := List.count_eq_zero.2 fun seen => exited (honest p seen)
  have once : launched.count p = 1 := List.count_eq_one_of_mem own h
  rw [books.count_eq, List.count_append, List.count_append, List.count_append, unseen] at once
  simp only [exited, false_or, ← List.count_pos_iff]
  omega

/-- What was launched for a uuid before the next launch for it was killed, was seen to be gone, was
given up, or waits to be stopped. -/
theorem launches_perm_at_launch {q : Progress ε} {earlier later : List (Leg ε)} {leg : Leg ε}
    {uuid host log : String} {domid : Nat} {a : Except Failure Process}
    {before after : List Dealing} (run : Route s {} (earlier ++ leg :: later) q)
    (own : leg.uuid? = some uuid)
    (cut : dealings leg.deeds = before ++ .launch host domid log a :: after) :
    (under uuid (launches (moves earlier))).Perm
      (soFar Dealing.killed uuid (moves earlier) before ++
        soFar Dealing.seenGone uuid (moves earlier) before ++
        soFar Dealing.givenUp uuid (moves earlier) before ++
        under uuid (processes (pending (moves earlier)))) := by
  obtain ⟨p, history, -⟩ := route_split run
  obtain ⟨⟨r, cleared, -⟩, books⟩ := books_of_launch run own cut
  have ends := finished_of_steps (steps_of_route history) uuid cleared.finished
  exact books.trans (ends.append_right _)

/-- **Exited or killed.** In any interleaving of calls, whatever fails and whether or not processes
obey: what was launched for a uuid and is not stopped yet records the uuid, or waits in a call to be
stopped. Let the processes in `gone` be those that have exited by now, among them all that were seen
to be gone. A process that was stopped has exited or was killed, unless it was given up: nobody has
tried to kill it then, and it may live. When a process is launched for the uuid, all earlier ones
have exited or were killed but for those that were given up and those that still wait. -/
theorem exited_or_killed_iff {q : Progress ε} {legs : List (Leg ε)} (run : Route s {} legs q)
    (uuid : String) (gone : Process → Prop) :
    (under uuid (launches (moves legs))).Perm
      (soFar Dealing.killed uuid (moves legs) [] ++ soFar Dealing.seenGone uuid (moves legs) [] ++
        soFar Dealing.givenUp uuid (moves legs) [] ++
        (under uuid (processes (pending (moves legs))) ++ (q.state.attached uuid).toList)) ∧
    ((under uuid (launches (moves legs))).Nodup →
      (∀ p ∈ soFar Dealing.seenGone uuid (moves legs) [], gone p) →
      ∀ p ∈ under uuid (stops (moves legs)),
        (gone p ∨ p ∈ soFar Dealing.killed uuid (moves legs) []) ↔
          (gone p ∨ p ∉ soFar Dealing.givenUp uuid (moves legs) [])) ∧
    ∀ {earlier later : List (Leg ε)} {leg : Leg ε} {host log : String} {domid : Nat}
        {a : Except Failure Process} {before after : List Dealing},
      legs = earlier ++ leg :: later → leg.uuid? = some uuid →
      dealings leg.deeds = before ++ .launch host domid log a :: after →
      (under uuid (launches (moves earlier))).Nodup →
      (∀ p ∈ soFar Dealing.seenGone uuid (moves earlier) before, gone p) →
      ∀ p ∈ under uuid (launches (moves earlier)),
        (gone p ∨ p ∈ soFar Dealing.killed uuid (moves earlier) before) ↔
          (gone p ∨ p ∉ soFar Dealing.givenUp uuid (moves earlier) before ∧
            p ∉ under uuid (processes (pending (moves earlier)))) := by
  refine ⟨launches_perm_finished (steps_of_route run) uuid, fun own honest p stopped => ?_, ?_⟩
  · have launched := (launches_perm_pending (steps_of_route run) uuid).count_eq p
    have once := List.nodup_iff_count_le_one.1 own p
    have begun := List.count_pos_iff.2 stopped
    rw [List.count_append, List.count_append] at launched
    have books := launches_perm_finished (steps_of_route run) uuid
    rw [exited_or_killed_of_books books own honest (List.count_pos_iff.1 (by omega))]
    have settled : p ∉ under uuid (processes (pending (moves legs))) ++
        (q.state.attached uuid).toList := by
      rw [← List.count_eq_zero, List.count_append]
      omega
    simp [settled]
  · rintro earlier later leg host log domid a before after rfl self cut own honest p launched
    exact exited_or_killed_of_books (launches_perm_at_launch run self cut) own honest launched

/-! ## Processes that cannot be asked -/

def refused : List (Order Unit) :=
  added ++ [.call 0 .pass, .go 0 {}, .go 0 {}, .go 0 { domid := .ok (some 8) },
    .go 0 { terminated := .error ⟨"not permitted"⟩, launch := .ok ⟨3, 102⟩ }]

/-- Then the subject is removed. Its process does not exit when it is asked to, and cannot be killed
either. -/
def refusedTwice : List (Order Unit) :=
  refused ++ [.call 1 (.remove "vm"), .go 1 {},
    .go 1 { gone := .ok false, killed := .error ⟨"not permitted"⟩ }]

/-- The second process was killed and the first was not, neither at the end nor when the second one
was launched. -/
theorem killed_of_refusedTwice :
    let legs := (obey {} {} refusedTwice).1
    let last := lastLeg refused (List.cons_ne_nil _ _)
    let earlier := moves (obey {} {} refused).1.dropLast
    under "vm" (stops (moves legs)) = [⟨1, 100⟩, ⟨3, 102⟩] ∧
    (False ∨ (⟨3, 102⟩ : Process) ∈ soFar Dealing.killed "vm" (moves legs) []) ∧
    ¬ (False ∨ (⟨1, 100⟩ : Process) ∈ soFar Dealing.killed "vm" (moves legs) []) ∧
    ∃ host domid log,
      dealings last.deeds =
        [.exitCheck ⟨1, 100⟩ (.ok false), .terminate ⟨1, 100⟩ (.error ⟨"not permitted"⟩)] ++
          .launch host domid log (.ok ⟨3, 102⟩) :: [] ∧
      ¬ (False ∨ (⟨1, 100⟩ : Process) ∈ soFar Dealing.killed "vm" earlier
        [.exitCheck ⟨1, 100⟩ (.ok false), .terminate ⟨1, 100⟩ (.error ⟨"not permitted"⟩)]) := by
  intro legs last earlier
  have ends := (exited_or_killed_iff (route_obey {} {} refusedTwice) "vm" fun _ => False).2.1
    (by decide +kernel) (by decide +kernel)
  obtain ⟨host, domid, log, cut⟩ : ∃ host domid log, dealings last.deeds =
      [.exitCheck ⟨1, 100⟩ (.ok false), .terminate ⟨1, 100⟩ (.error ⟨"not permitted"⟩)] ++
        .launch host domid log (.ok ⟨3, 102⟩) :: [] := ⟨_, _, _, rfl⟩
  have beside := (exited_or_killed_iff (@route_lastLeg refused (List.cons_ne_nil _ _)) "vm"
    fun _ => False).2.2 rfl (by decide +kernel) cut (by decide +kernel) (by decide +kernel)
    ⟨1, 100⟩ (by decide +kernel)
  exact ⟨by decide +kernel, (ends ⟨3, 102⟩ (by decide +kernel)).2 (by decide +kernel),
    fun h => absurd ((ends ⟨1, 100⟩ (by decide +kernel)).1 h) (by decide +kernel),
    _, _, _, cut, fun h => absurd (beside.1 h) (by decide +kernel)⟩

/-- A living process is given up, and nobody tries to kill it. -/
theorem not_always_exited_or_killed :
    ¬ ∀ {q : Progress Unit} {legs : List (Leg Unit)}, Route {} {} legs q →
      ∀ (uuid : String) (gone : Process → Prop),
      (under uuid (launches (moves legs))).Nodup →
      (∀ p ∈ soFar Dealing.seenGone uuid (moves legs) [], gone p) →
      ∀ p ∈ under uuid (stops (moves legs)),
        gone p ∨ p ∈ soFar Dealing.killed uuid (moves legs) [] := by
  intro promised
  have killed := promised (route_obey {} {} refused) "vm" (fun _ => False) (by decide +kernel)
    (by decide +kernel) ⟨1, 100⟩ (by decide +kernel)
  exact absurd killed (by decide +kernel)

end Monitor

end Testbed.Console
