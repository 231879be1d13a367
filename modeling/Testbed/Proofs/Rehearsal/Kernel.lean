import Testbed.Rehearsal.Machine.Kernel
/-!
# What becomes of processes

Whatever the programs of a machine do, its clock goes on, process ids are not given out twice, and a
process that has ended stays as it is: its parent is told of the end after it and once. Each step of
a process is one of a few kinds of changes, and most of them do not touch what is said here.

Main statements: `later_step` and `later_run`, a step and a run; `ended_deliver_kill`, nobody
survives a kill.
-/
namespace Testbed.Rehearsal.Machine.Kernel

variable {k k' k'' : Kernel} {n : Nat}

/-- How the processes of a machine are kept. Its first process is whoever uses it, and is not
counted among the living. -/
structure Orderly (k : Kernel) : Prop where
  pid : ∀ i, i < k.processes.size → (k.process i).pid = firstPid + i
  living : ∀ i, i ∈ k.living ↔ i ≠ 0 ∧ i < k.processes.size ∧ (k.process i).ended = none
  reaped : ∀ i, i < k.processes.size → (k.process i).reaped → (k.process i).ended ≠ none

/-- A machine some time later. -/
structure Later (k k' : Kernel) : Prop where
  size : k.processes.size ≤ k'.processes.size
  clock : k.clock ≤ k'.clock
  ended : ∀ i, i < k.processes.size → ∀ status, (k.process i).ended = some status →
    (k'.process i).ended = some status
  reaped : ∀ i, i < k.processes.size → (k.process i).reaped → (k'.process i).reaped
  orderly : k.Orderly → k'.Orderly

theorem Later.refl (k : Kernel) : Later k k :=
  ⟨Nat.le_refl _, Nat.le_refl _, fun _ _ _ h => h, fun _ _ h => h, id⟩

theorem Later.trans (first : Later k k') (second : Later k' k'') : Later k k'' where
  size := Nat.le_trans first.size second.size
  clock := Nat.le_trans first.clock second.clock
  ended i old status h :=
    second.ended i (Nat.lt_of_lt_of_le old first.size) status (first.ended i old status h)
  reaped i old h := second.reaped i (Nat.lt_of_lt_of_le old first.size) (first.reaped i old h)
  orderly := second.orderly ∘ first.orderly

theorem later_foldl {β : Type} {f : Kernel → β → Kernel} (each : ∀ k b, Later k (f k b))
    (bs : List β) (k : Kernel) : Later k (bs.foldl f k) := by
  induction bs generalizing k with
  | nil => exact .refl k
  | cons b bs ih => exact (each k b).trans (ih _)

/-! ## The kinds of changes -/

theorem process_update (k : Kernel) (n : Nat) (f : Running → Running) (i : Nat) :
    (k.update n f).process i =
      if i = n ∧ n < k.processes.size then f (k.process n) else k.process i := by
  unfold process update
  rw [Array.getElem?_modify]
  by_cases same : n = i
  · subst i
    by_cases there : n < k.processes.size <;> simp [there]
  · have other : ¬i = n := fun h => same h.symm
    simp [same, other]

@[simp] theorem size_update (k : Kernel) (n : Nat) (f : Running → Running) :
    (k.update n f).processes.size = k.processes.size := by
  simp [update]

/-- A change that leaves the processes as they are, as far as is said here. -/
theorem later_of_same (size : k'.processes.size = k.processes.size) (clock : k.clock ≤ k'.clock)
    (living : k'.living = k.living)
    (same : ∀ i, (k'.process i).pid = (k.process i).pid ∧
      (k'.process i).ended = (k.process i).ended ∧ (k'.process i).reaped = (k.process i).reaped) :
    Later k k' where
  size := Nat.le_of_eq size.symm
  clock := clock
  ended i _ status h := (same i).2.1.trans h
  reaped i _ h := by rwa [(same i).2.2]
  orderly orderly := by
    refine ⟨fun i old => ?_, fun i => ?_, fun i old => ?_⟩
    · rw [(same i).1]
      exact orderly.pid i (size ▸ old)
    · rw [living, size, (same i).2.1]
      exact orderly.living i
    · rw [(same i).2.1, (same i).2.2]
      exact orderly.reaped i (size ▸ old)

theorem later_update (k : Kernel) (n : Nat) {f : Running → Running}
    (same : ∀ r, (f r).pid = r.pid ∧ (f r).ended = r.ended ∧ (f r).reaped = r.reaped) :
    Later k (k.update n f) := by
  refine later_of_same (size_update k n f) (Nat.le_refl _) rfl fun i => ?_
  rw [process_update]
  split
  · rename_i h
    rw [h.1]
    exact same _
  · exact ⟨rfl, rfl, rfl⟩

/-- Children that are given to another process. -/
theorem process_adopted {pid : Nat} (adopted : k'.processes = k.processes.map fun r =>
    if r.parent = pid then { r with parent := 1 } else r) (i : Nat) :
    (k'.process i).pid = (k.process i).pid ∧ (k'.process i).reaped = (k.process i).reaped ∧
      (k'.process i).ended = (k.process i).ended := by
  unfold process
  rw [adopted, Array.getElem?_map]
  cases k.processes[i]? with
  | none => exact ⟨rfl, rfl, rfl⟩
  | some r => by_cases child : r.parent = pid <;> simp [child]

theorem process_finish (k : Kernel) (n : Nat) (status : ExitStatus) (i : Nat) :
    ((k.finish n status).process i).pid = (k.process i).pid ∧
      ((k.finish n status).process i).reaped = (k.process i).reaped ∧
      ((k.finish n status).process i).ended =
        if i = n ∧ n < k.processes.size then some status else (k.process i).ended := by
  have adopted := @process_adopted _ (k.finish n status) _ rfl i
  rw [process_update] at adopted
  split at adopted
  · rename_i own
    obtain rfl := own.1
    rwa [if_pos own]
  · rename_i other
    rwa [if_neg other]

@[simp] theorem size_finish (k : Kernel) (n : Nat) (status : ExitStatus) :
    (k.finish n status).processes.size = k.processes.size := by
  simp [finish]

/-- A process that has not ended ends. -/
theorem later_finish {k : Kernel} {n : Nat} (alive : (k.process n).ended = none)
    (status : ExitStatus) : Later k (k.finish n status) where
  size := Nat.le_of_eq (size_finish k n status).symm
  clock := Nat.le_refl _
  ended i old was h := by
    have other : i ≠ n := fun same => by simp [← same, h] at alive
    rw [(process_finish k n status i).2.2, if_neg fun both => other both.1, h]
  reaped i old h := by rwa [(process_finish k n status i).2.1]
  orderly orderly := by
    refine ⟨fun i old => ?_, fun i => ?_, fun i old reaped => ?_⟩
    · rw [(process_finish k n status i).1]
      exact orderly.pid i (size_finish k n status ▸ old)
    · have left : i ∈ (k.finish n status).living ↔ i ∈ k.living ∧ i ≠ n := by
        simp [finish, update]
      rw [left, orderly.living i, size_finish, (process_finish k n status i).2.2]
      by_cases own : i = n
      · subst i
        by_cases there : n < k.processes.size <;> simp [there]
      · simp [own]
    · rw [(process_finish k n status i).2.1] at reaped
      rw [(process_finish k n status i).2.2]
      split
      · simp
      · exact orderly.reaped i (size_finish k n status ▸ old) reaped

/-! ## Signals -/

theorem later_deliver (k : Kernel) (n signal : Nat) : Later k (k.deliver n signal) := by
  unfold deliver
  dsimp only
  split
  · exact .refl k
  rename_i there
  have alive : (k.process n).ended = none := by
    simp only [Bool.or_eq_true, not_or] at there
    simpa using there.1
  split
  · exact later_finish alive _
  split
  · -- those that came while it stood still
    refine Later.trans ?_ (later_foldl (fun k signal => ?_) _ _)
    · exact later_update k n fun _ => ⟨rfl, rfl, rfl⟩
    split
    · exact .refl k
    rename_i there
    have alive : (k.process n).ended = none := by
      simp only [Bool.or_eq_true, not_or] at there
      simpa using there.2
    split
    · exact later_update k n fun _ => ⟨rfl, rfl, rfl⟩
    split
    · exact .refl k
    · exact later_finish alive _
  split
  · exact later_update k n fun _ => ⟨rfl, rfl, rfl⟩
  split
  · exact .refl k
  split
  · exact later_update k n fun _ => ⟨rfl, rfl, rfl⟩
  split
  · exact later_update k n fun _ => ⟨rfl, rfl, rfl⟩
  split
  · exact .refl k
  split
  · exact later_update k n fun _ => ⟨rfl, rfl, rfl⟩
  · exact later_finish alive _

/-- **Nobody survives a kill.** -/
theorem ended_deliver_kill {k : Kernel} {n : Nat} (there : n < k.processes.size) :
    ((k.deliver n 9).process n).ended ≠ none := by
  unfold deliver
  dsimp only
  by_cases ended : (k.process n).ended.isSome
  · simp only [ended, Bool.true_or, if_true]
    intro none
    simp [none] at ended
  · simp [ended, (process_finish k n (.signal 9) n).2.2, there]

/-! ## Streams -/

theorem later_addDescriptor (k : Kernel) (n least stream : Nat) :
    Later k (k.addDescriptor n least stream).1 := later_update k n fun _ => ⟨rfl, rfl, rfl⟩

/-- A change of what else there is to a machine. -/
theorem later_of_processes (clock : k.clock ≤ k'.clock) (processes : k'.processes = k.processes)
    (living : k'.living = k.living) : Later k k' :=
  later_of_same (by rw [processes]) clock living fun i => by simp [process, processes]

theorem later_openStream (k : Kernel) (n : Nat) (s : Stream) : Later k (k.openStream n s).1 :=
  have added : Later k (k.addStream s).1 := later_of_processes (Nat.le_refl _) rfl rfl
  added.trans (later_addDescriptor _ n 0 _)

theorem later_readStream (k : Kernel) (stream count : Nat) :
    Later k (k.readStream stream count).1 := by
  unfold readStream
  dsimp only
  repeat' split
  all_goals exact later_of_processes (Nat.le_refl _) rfl rfl

theorem later_writeStream (k : Kernel) (stream : Nat) (text : List Char) :
    Later k (k.writeStream stream text).1 := by
  unfold writeStream
  dsimp only
  repeat' split
  all_goals exact later_of_processes (Nat.le_refl _) rfl rfl

theorem later_unread (k : Kernel) (n fd count : Nat) : Later k (k.unread n fd count) := by
  unfold unread
  repeat' split
  all_goals exact later_of_processes (Nat.le_refl _) rfl rfl

/-! ## Waiting -/

/-- The end of a process is told to its parent. -/
theorem later_reap {k : Kernel} {n : Nat} (ended : (k.process n).ended ≠ none) :
    Later k (k.update n fun r => { r with reaped := true }) := by
  have same (i : Nat) : ((k.update n fun r => { r with reaped := true }).process i).pid =
      (k.process i).pid ∧ ((k.update n fun r => { r with reaped := true }).process i).ended =
        (k.process i).ended := by
    rw [process_update]
    split
    · rename_i own
      rw [own.1]
      exact ⟨rfl, rfl⟩
    · exact ⟨rfl, rfl⟩
  have told (i : Nat) (h : (k.process i).reaped) :
      ((k.update n fun r => { r with reaped := true }).process i).reaped := by
    rw [process_update]
    split
    · rfl
    · exact h
  refine ⟨Nat.le_of_eq (size_update ..).symm, Nat.le_refl _, fun i _ status h => ?_,
    fun i _ h => told i h, fun orderly => ⟨fun i old => ?_, fun i => ?_, fun i old reaped => ?_⟩⟩
  · exact (same i).2.trans h
  · rw [(same i).1]
    exact orderly.pid i (size_update .. ▸ old)
  · rw [size_update, (same i).2]
    exact orderly.living i
  · rw [(same i).2]
    rw [process_update] at reaped
    split at reaped
    · rename_i own
      rw [own.1]
      exact ended
    · exact orderly.reaped i (size_update .. ▸ old) reaped

theorem later_waitFor (k : Kernel) (n : Nat) (child : Option Nat) :
    Later k (k.waitFor n child).1 := by
  simp only [waitFor]
  split
  · rename_i i found
    exact later_reap fun none => by simpa [none] using List.find?_some found
  · exact .refl k

/-! ## Steps -/

theorem later_serve (k : Kernel) (isProgram : String → Bool) (n : Nat) (c : Call) :
    Later k (k.serve isProgram n c).1 := by
  cases c with
  | fork | exit | write | sleep => exact .refl k
  | become name => exact later_update k n fun _ => ⟨rfl, rfl, rfl⟩
  | read fd count =>
    simp only [serve]
    split
    · exact later_readStream k _ count
    · exact .refl k
  | unread fd count => exact later_unread k n fd count
  | «open» path way =>
    simp only [serve]
    split
    · rename_i files s _
      have changed : Later k { k with files } := later_of_processes (Nat.le_refl _) rfl rfl
      exact changed.trans (later_openStream _ n s)
    · exact .refl k
  | close fd =>
    simp only [serve]
    split
    · exact later_update k n fun _ => ⟨rfl, rfl, rfl⟩
    · exact .refl k
  | copyTo fd target =>
    simp only [serve]
    split
    · exact later_update k n fun _ => ⟨rfl, rfl, rfl⟩
    · exact .refl k
  | copyAbove fd least =>
    simp only [serve]
    split
    · exact later_addDescriptor k n least _
    · exact .refl k
  | pipe =>
    have added : Later k { k with pipes := k.pipes.push {} } :=
      later_of_processes (Nat.le_refl _) rfl rfl
    exact (added.trans (later_openStream _ n _)).trans (later_openStream _ n _)
  | wait child breakable => exact later_waitFor k n child
  | reap =>
    simp only [serve]
    have waited := later_waitFor k n none
    split <;> rename_i h <;> rw [h] at waited <;> exact waited
  | kill target signal =>
    simp only [serve]
    split
    · exact .refl k
    · exact later_foldl (fun k i => later_deliver k i signal) _ k
  | change path what =>
    simp only [serve]
    split
    · exact later_of_processes (Nat.le_refl _) rfl rfl
    · exact .refl k
  | enter path =>
    simp only [serve]
    split
    · exact later_update k n fun _ => ⟨rfl, rfl, rfl⟩
    all_goals exact .refl k
  | arrange | caught | mask | lead => exact later_update k n fun _ => ⟨rfl, rfl, rfl⟩
  | statusOf fd =>
    simp only [serve]
    split <;> exact .refl k
  | list path =>
    simp only [serve]
    split <;> exact .refl k
  | disposition | now | status | statusOfName | directory | self => exact .refl k

theorem later_goOn (k : Kernel) (n : Nat) (task : Task Nat) : Later k (k.goOn n task) :=
  later_update k n fun _ => ⟨rfl, rfl, rfl⟩

theorem later_ite {p : Prop} [Decidable p] (yes : Later k k') (no : Later k k'') :
    Later k (if p then k' else k'') := by
  split
  · exact yes
  · exact no

theorem later_written (k : Kernel) (n fd : Nat) (text : List Char)
    (next : Except OsError Unit → Task Nat) : Later k (k.written n fd text next) := by
  unfold written
  split
  · exact later_goOn k n _
  rename_i s _
  refine later_ite ?_ ?_
  · exact (later_goOn k n _).trans (later_deliver _ n 13)
  have wrote := later_writeStream k s text
  split <;> rename_i h <;> rw [h] at wrote <;> exact wrote.trans (later_goOn _ n _)

theorem process_push (k : Kernel) (child : Running) (living : List Nat) (i : Nat) :
    ({ k with processes := k.processes.push child, living } : Kernel).process i =
      if i = k.processes.size then child else k.process i := by
  unfold process
  rw [Array.getElem?_push]
  split <;> rfl

/-- A new process, which goes by a number of its own. -/
theorem later_push {k : Kernel} (user : 0 < k.processes.size) {child : Running}
    (pid : child.pid = firstPid + k.processes.size) (alive : child.ended = none)
    (kept : k.Orderly → child.reaped = false) :
    Later k { k with
      processes := k.processes.push child, living := k.living ++ [k.processes.size] } where
  size := by simp
  clock := Nat.le_refl _
  ended i old status h := by rwa [process_push, if_neg (Nat.ne_of_lt old)]
  reaped i old h := by rwa [process_push, if_neg (Nat.ne_of_lt old)]
  orderly orderly := by
    refine ⟨fun i old => ?_, fun i => ?_, fun i old => ?_⟩ <;> rw [process_push]
    · split
      · simp [*]
      · exact orderly.pid i (by simp only [Array.size_push] at old; omega)
    · rw [List.mem_append, orderly.living i, List.mem_singleton, Array.size_push]
      by_cases own : i = k.processes.size
      · subst i
        simp [alive, Nat.ne_of_gt user]
      · have same : i < k.processes.size + 1 ↔ i < k.processes.size := by omega
        simp only [own, or_false, if_false, same]
    · split
      · simp [kept orderly]
      · exact orderly.reaped i (by simp only [Array.size_push] at old; omega)

theorem later_forked {k : Kernel} {n : Nat} (there : n < k.processes.size)
    (alive : (k.process n).ended = none) (next : Option Nat → Task Nat) :
    Later k (k.forked n next) := by
  refine Later.trans (later_push (Nat.lt_of_le_of_lt (Nat.zero_le n) there) ?_ ?_ ?_)
    (later_goOn _ n _)
  · rfl
  · exact alive
  · exact fun orderly => Bool.eq_false_iff.2 fun reaped => orderly.reaped n there reaped alive

theorem later_due (k : Kernel) (n : Nat) : Later k (k.due n) := by
  have passed : Later k { k with clock := max k.clock (k.process n).ready } :=
    later_of_processes (Nat.le_max_left ..) rfl rfl
  refine passed.trans ?_
  exact later_update _ n fun _ => ⟨rfl, rfl, rfl⟩

theorem alive_due {k : Kernel} {n : Nat} (alive : (k.process n).ended = none) :
    ((k.due n).process n).ended = none := by
  unfold due
  rw [process_update]
  split <;> exact alive

/-- **A step of a process.** -/
theorem later_step {k : Kernel} {n : Nat} (isProgram : String → Bool)
    (there : n < k.processes.size) (alive : (k.process n).ended = none) :
    Later k (k.step isProgram n) := by
  have still := alive_due alive
  refine (later_due k n).trans ?_
  unfold step
  dsimp only
  split
  · exact later_finish still _
  · exact later_finish still _
  · exact later_forked (Nat.lt_of_lt_of_le there (later_due k n).size) still _
  · refine Later.trans ?_ (later_goOn _ n _)
    exact later_update _ n fun _ => ⟨rfl, rfl, rfl⟩
  · exact later_written _ n _ _ _
  · rename_i c next _ _ _ _ _
    have served := later_serve (k.due n) isProgram n c
    split <;> rename_i h <;> rw [h] at served
    · exact served.trans (later_goOn _ n _)
    · exact served

/-- Who takes the next step is alive. -/
theorem mem_of_next? {n time : Nat} (h : k.next? = some (n, time)) : n ∈ k.living := by
  have chosen (ns : List Nat) (best : Option (Nat × Nat)) (later : ∀ n ∈ ns, n ∈ k.living)
      (now : ∀ b ∈ best, b.1 ∈ k.living) :
      ∀ b ∈ ns.foldl (fun best n =>
        let time := (k.process n).ready
        if best.all (fun b => time < b.2) && k.canGo n then some (n, time) else best) best,
        b.1 ∈ k.living := by
    induction ns generalizing best with
    | nil => exact now
    | cons n ns ih =>
      refine ih _ (fun i hi => later i (by simp [hi])) fun b hb => ?_
      dsimp only at hb
      split at hb
      · obtain rfl := Option.some.inj hb
        exact later n (by simp)
      · exact now b hb
  exact chosen k.living none (fun _ h => h) nofun (n, time) h

/-- **A run of a machine.** -/
theorem later_run (isProgram : String → Bool) (limit : Option Nat) (enough : Kernel → Bool)
    (fuel : Nat) (orderly : k.Orderly) : Later k (run isProgram limit enough fuel k) := by
  induction fuel generalizing k with
  | zero => exact .refl k
  | succ fuel ih =>
    simp only [run]
    split
    · exact .refl k
    split
    · rename_i n time chosen
      split
      · exact .refl k
      · obtain ⟨-, there, alive⟩ := (orderly.living n).1 (mem_of_next? chosen)
        have first := later_step isProgram there alive
        exact first.trans (ih (first.orderly orderly))
    · exact .refl k

end Testbed.Rehearsal.Machine.Kernel
