import Mathlib.Algebra.Group.Nat.Even
import Mathlib.Algebra.Order.Floor.Div
import Testbed.Proofs.Waiting
/-!
# The tries of a wait

A budget allows so many tries as there are pauses that begin within it, and one at least
(`triesWithin`). All tries but the last miss, each is followed by one pause, and the last one makes
the end of the wait: it fails, it meets the condition, or it misses and is the last that the budget
allows (`Concludes`).

Main statements: `runs_tryWithin`, these are the runs of a wait on any condition; `wait_exact`, what
a wait that is given any answers does, how long it pauses, and that a wait on any condition is that
wait with the condition put in for its questions.
-/
namespace Testbed.Wait

open Program

variable {I : Interface} [Interface.Embeds Wait.interface I] {ε : Type} {w : Wait}
  {onTimeout : Timeout → ε} {budget : Duration}

/-! ## How many there are -/

def triesWithin (w : Wait) (budget : Duration) : ℕ := max 1 (budget.nanos ⌈/⌉ w.pause.nanos)

def limit (w : Wait) : ℕ := w.triesWithin w.timeout

theorem triesWithin_pos : 0 < w.triesWithin budget := Nat.lt_of_lt_of_le one_pos (le_max_left ..)

theorem triesWithin_of_spent (spent : (budget.less w.pause).nanos = 0) :
    w.triesWithin budget = 1 := by
  have pos := w.pause_pos
  have covers : budget.nanos ⌈/⌉ w.pause.nanos ≤ 1 := by
    rw [ceilDiv_le_iff_le_mul pos]
    simp only [Duration.less] at spent
    omega
  exact max_eq_left covers

theorem triesWithin_of_left (left : (budget.less w.pause).nanos ≠ 0) :
    w.triesWithin budget = w.triesWithin (budget.less w.pause) + 1 := by
  have pos := w.pause_pos
  simp only [triesWithin, Duration.less, Nat.ceilDiv_eq_add_pred_div] at *
  have shift : budget.nanos + w.pause.nanos - 1 =
      budget.nanos - w.pause.nanos + w.pause.nanos - 1 + w.pause.nanos := by omega
  have whole : 1 ≤ (budget.nanos - w.pause.nanos + w.pause.nanos - 1) / w.pause.nanos := by
    rw [Nat.le_div_iff_mul_le pos]
    omega
  rw [shift, Nat.add_div_right _ pos]
  omega

/-- The pauses before the last try that a budget allows do not use it up. -/
theorem mul_pause_lt {missed : ℕ} (within : missed < w.triesWithin budget) (some : 0 < missed) :
    missed * w.pause.nanos < budget.nanos := by
  by_contra used
  have covers : budget.nanos ⌈/⌉ w.pause.nanos ≤ missed := by
    rw [ceilDiv_le_iff_le_mul w.pause_pos, Nat.mul_comm]
    omega
  rw [triesWithin] at within
  omega

/-! ## What comes of them -/

/-- How the last try ends a wait, by its answer. A miss does so only if there is no try left. -/
inductive Concludes (w : Wait) (onTimeout : Timeout → ε) (noneLeft : Prop) :
    Except ε Bool → Except ε Unit → Prop
  | failed (e : ε) : Concludes w onTimeout noneLeft (.error e) (.error e)
  | met : Concludes w onTimeout noneLeft (.ok w.expected) (.ok ())
  | timedOut :
      noneLeft → Concludes w onTimeout noneLeft (.ok !w.expected) (.error (onTimeout w.timedOut))

theorem Concludes.congr {noneLeft other : Prop} (same : noneLeft ↔ other) {a : Except ε Bool}
    {res : Except ε Unit} (h : Concludes w onTimeout noneLeft a res) :
    Concludes w onTimeout other a res := propext same ▸ h

theorem Concludes.of_miss {noneLeft : Prop} {res : Except ε Unit}
    (h : Concludes w onTimeout noneLeft (.ok !w.expected) res) : noneLeft := by
  generalize ha : (.ok !w.expected : Except ε Bool) = a at h
  cases h with
  | failed e => cases ha
  | met => exact absurd (Except.ok.inj ha) (by simp)
  | timedOut left => exact left

theorem Concludes.unique {noneLeft : Prop} {a : Except ε Bool} {res other : Except ε Unit}
    (h : Concludes w onTimeout noneLeft a res) (h' : Concludes w onTimeout noneLeft a other) :
    res = other := by
  cases h with
  | failed e =>
    cases h'
    rfl
  | met =>
    generalize ha : (.ok w.expected : Except ε Bool) = a at h'
    cases h' with
    | failed e => cases ha
    | met => rfl
    | timedOut left => exact absurd (Except.ok.inj ha) (by simp)
  | timedOut left =>
    generalize ha : (.ok !w.expected : Except ε Bool) = a at h'
    cases h' with
    | failed e => cases ha
    | met => exact absurd (Except.ok.inj ha) (by simp)
    | timedOut _ => rfl

/-! ## Waits on any condition -/

variable {condition : ExceptT ε (Program I) Bool} {t : List (Exchange I)} {res : Except ε Unit}

/-- What is said in a try that misses, and in the pause after it. -/
def Missed (w : Wait) (condition : ExceptT ε (Program I) Bool) (s : List (Exchange I)) : Prop :=
  ∃ tried paused, s = tried ++ paused ∧ Runs condition.run tried (.ok !w.expected) ∧
    Runs (sleep w.pause).embed paused ()

/-- What is said in a wait of at most `n` tries: tries that miss, and the last one. -/
inductive Tried (w : Wait) (onTimeout : Timeout → ε) (condition : ExceptT ε (Program I) Bool)
    (n : ℕ) : List (Exchange I) → Except ε Unit → Prop
  | intro (missed : List (List (Exchange I))) (last : List (Exchange I)) (a : Except ε Bool)
      {res : Except ε Unit} :
      (∀ s ∈ missed, w.Missed condition s) → Runs condition.run last a → missed.length < n →
      Concludes w onTimeout (missed.length + 1 = n) a res →
      Tried w onTimeout condition n (missed.flatten ++ last) res

theorem Tried.more {n : ℕ} {s : List (Exchange I)} (first : w.Missed condition s)
    (h : Tried w onTimeout condition n t res) :
    Tried w onTimeout condition (n + 1) (s ++ t) res := by
  obtain ⟨missed, last, a, misses, tried, within, concludes⟩ := h
  rw [← List.append_assoc, ← List.flatten_cons]
  refine .intro _ last a ?_ tried (by simpa using within) (concludes.congr (by simp))
  intro u hu
  rcases List.mem_cons.1 hu with rfl | hu
  · exact first
  · exact misses u hu

theorem tried_of_tryWithin (run : Runs (w.tryWithin onTimeout condition budget).run t res) :
    Tried w onTimeout condition (w.triesWithin budget) t res := by
  induction hn : budget.nanos using Nat.strongRecOn generalizing budget t with
  | ind n ih =>
    rw [tryWithin] at run
    have once {last : List (Exchange I)} {a : Except ε Bool} (tried : Runs condition.run last a)
        (concludes : Concludes w onTimeout (1 = w.triesWithin budget) a res) :
        Tried w onTimeout condition (w.triesWithin budget) last res :=
      .intro [] last a (by simp) tried triesWithin_pos (by simpa using concludes)
    rcases runs_try_bind.1 run with ⟨e, rfl, failed⟩ | ⟨t₁, t₂, value, rfl, tried, rest⟩
    · exact once failed (.failed e)
    by_cases met : value = w.expected
    · rw [if_pos met] at rest
      obtain ⟨rfl, rfl⟩ := runs_try_pure.1 rest
      rw [List.append_nil]
      exact once (met ▸ tried) .met
    obtain rfl := Bool.eq_not.2 met
    rw [if_neg met] at rest
    by_cases spent : (budget.less w.pause).nanos = 0
    · rw [dif_pos spent] at rest
      obtain ⟨rfl, rfl⟩ := runs_throw.1 rest
      rw [List.append_nil]
      exact once tried (.timedOut (triesWithin_of_spent spent).symm)
    · rw [dif_neg spent] at rest
      obtain ⟨t₃, t₄, _, rfl, paused, rest⟩ := runs_lift_bind.1 rest
      have shorter : (budget.less w.pause).nanos < n := by
        have := w.pause_pos
        simp only [Duration.less] at *
        omega
      have later := ih _ shorter rest rfl
      rw [triesWithin_of_left spent, ← List.append_assoc]
      exact later.more ⟨t₁, t₃, rfl, tried, paused⟩

theorem tryWithin_of_tried {n : ℕ} (h : Tried w onTimeout condition n t res)
    (allowed : w.triesWithin budget = n) :
    Runs (w.tryWithin onTimeout condition budget).run t res := by
  obtain ⟨missed, last, a, misses, tried, within, concludes⟩ := h
  induction missed generalizing budget n with
  | nil =>
    rw [tryWithin]
    cases concludes with
    | failed e => exact runs_try_bind.2 (.inl ⟨e, rfl, tried⟩)
    | met =>
      refine runs_try_bind.2 (.inr ⟨last, [], _, by simp, tried, ?_⟩)
      rw [if_pos rfl]
      exact runs_try_pure.2 ⟨rfl, rfl⟩
    | timedOut noneLeft =>
      have spent : (budget.less w.pause).nanos = 0 := by
        by_contra left
        have more := triesWithin_of_left left
        have pos : 0 < w.triesWithin (budget.less w.pause) := triesWithin_pos
        simp only [List.length_nil] at noneLeft
        omega
      refine runs_try_bind.2 (.inr ⟨last, [], _, by simp, tried, ?_⟩)
      rw [if_neg (by simp), dif_pos spent]
      exact runs_throw.2 ⟨rfl, rfl⟩
  | cons s missed ih =>
    obtain ⟨t₁, t₂, rfl, first, paused⟩ := misses s (List.mem_cons_self ..)
    have left : (budget.less w.pause).nanos ≠ 0 := by
      intro spent
      have once := triesWithin_of_spent spent
      simp only [List.length_cons] at within
      omega
    have fewer := triesWithin_of_left left
    rw [tryWithin, List.flatten_cons, List.append_assoc, List.append_assoc]
    refine runs_try_bind.2 (.inr ⟨t₁, _, _, rfl, first, ?_⟩)
    rw [if_neg (by simp), dif_neg left]
    refine runs_lift_bind.2 ⟨t₂, _, (), rfl, paused, ?_⟩
    simp only [List.length_cons] at within concludes
    exact ih rfl (fun u hu => misses u (List.mem_cons_of_mem _ hu)) (by omega)
      (concludes.congr (by omega))

/-- **The runs of a wait.** -/
theorem runs_tryWithin :
    Runs (w.tryWithin onTimeout condition budget).run t res ↔
      Tried w onTimeout condition (w.triesWithin budget) t res :=
  ⟨tried_of_tryWithin, fun h => tryWithin_of_tried h rfl⟩

/-- What is said at the beginning of a wait. -/
def Opening (w : Wait) (s : List (Exchange I)) : Prop :=
  match w.message with
  | some text => Runs (log ⟨.info, .wait, text⟩).embed s ()
  | none => s = []

theorem runs_awaitFallible :
    Runs (w.awaitFallible onTimeout condition).run t res ↔
      ∃ opening rest, t = opening ++ rest ∧ w.Opening opening ∧
        Tried w onTimeout condition w.limit rest res := by
  rcases w with ⟨_ | text, timeout, retryDelay, inverted⟩
  · constructor
    · exact fun run => ⟨[], t, rfl, rfl, runs_tryWithin.1 run⟩
    · rintro ⟨_, rest, rfl, rfl, tried⟩
      exact runs_tryWithin.2 tried
  · constructor
    · intro run
      obtain ⟨opening, rest, _, rfl, logged, tried⟩ := runs_lift_bind.1 run
      exact ⟨opening, rest, rfl, logged, runs_tryWithin.1 tried⟩
    · rintro ⟨opening, rest, rfl, logged, tried⟩
      exact runs_lift_bind.2 ⟨opening, rest, (), rfl, logged, runs_tryWithin.2 tried⟩

/-! ## The wait by itself -/

namespace Trial

def tried (a : Except ε Bool) : Exchange (interface ε) := ⟨.attempt, a⟩

def slept (d : Duration) : Exchange (interface ε) := ⟨.sleep d, ()⟩

def announced (text : String) : Exchange (interface ε) := ⟨.log ⟨.info, .wait, text⟩, ()⟩

def answers (t : List (Exchange (interface ε))) : List (Except ε Bool) :=
  t.filterMap fun
    | ⟨.attempt, a⟩ => some a
    | _ => none

/-- The time spent in pauses, in nanoseconds. -/
def asleep (t : List (Exchange (interface ε))) : ℕ :=
  (t.map fun
    | ⟨.sleep d, _⟩ => d.nanos
    | _ => 0).sum

/-- The `i`th try is answered by the script's `i`th answer. -/
def Follows (script : ℕ → Except ε Bool) (t : List (Exchange (interface ε))) : Prop :=
  ∀ i a, (answers t)[i]? = some a → a = script i

/-- All that is said in a wait: its message, tries that miss with a pause after each, the last. -/
def course (w : Wait) (missed : ℕ) (last : Except ε Bool) : List (Exchange (interface ε)) :=
  (w.message.map announced).toList ++
    (List.replicate missed [tried (.ok !w.expected), slept w.pause]).flatten ++ [tried last]

theorem missed_attempt {s : List (Exchange (interface ε))} :
    w.Missed attempt s ↔ s = [tried (.ok !w.expected), slept w.pause] := by
  constructor
  · rintro ⟨_, _, rfl, tries, pauses⟩
    obtain rfl := (runs_request_iff (I := interface ε)).1 tries
    obtain rfl := (runs_request_iff (I := interface ε)).1 pauses
    rfl
  · rintro rfl
    exact ⟨[_], [_], rfl, .ask (.done _), .ask (.done _)⟩

theorem opening_iff {s : List (Exchange (interface ε))} :
    w.Opening s ↔ s = (w.message.map announced).toList := by
  rcases w with ⟨_ | text, timeout, retryDelay, inverted⟩
  · exact Iff.rfl
  · exact runs_request_iff (I := interface ε)

/-- The runs of a wait, by its answers. -/
theorem runs_trial {t : List (Exchange (interface ε))} {res : Except ε Unit} :
    Runs (w.trial onTimeout).run t res ↔
      ∃ missed last, t = course w missed last ∧ missed < w.limit ∧
        Concludes w onTimeout (missed + 1 = w.limit) last res := by
  rw [trial, runs_awaitFallible]
  constructor
  · rintro ⟨opening, rest, rfl, opens, missed, last, a, misses, tries, within, concludes⟩
    obtain rfl := opening_iff.1 opens
    obtain rfl := (runs_request_iff (I := interface ε)).1 tries
    have alike : missed = List.replicate missed.length [tried (.ok !w.expected), slept w.pause] :=
      List.eq_replicate_of_mem fun s hs => missed_attempt.1 (misses s hs)
    refine ⟨missed.length, a, ?_, within, concludes⟩
    rw [course, ← alike, List.append_assoc]
    rfl
  · rintro ⟨missed, a, rfl, within, concludes⟩
    refine ⟨_, _, List.append_assoc .., opening_iff.2 rfl,
      .intro _ [tried a] a ?_ (.ask (.done a)) ?_ ?_⟩
    · intro s hs
      exact missed_attempt.2 (List.eq_of_mem_replicate hs)
    · simpa using within
    · simpa using concludes

/-! ## Scripts -/

theorem answers_course (missed : ℕ) (last : Except ε Bool) :
    answers (course w missed last) = List.replicate missed (.ok !w.expected) ++ [last] := by
  have opening : answers (w.message.map announced).toList = ([] : List (Except ε Bool)) := by
    cases w.message <;> rfl
  have misses : answers (List.replicate missed [tried (.ok !w.expected), slept w.pause]).flatten =
      List.replicate missed (.ok !w.expected : Except ε Bool) := by
    induction missed with
    | zero => rfl
    | succ missed ih =>
      rw [List.replicate_succ, List.replicate_succ, List.flatten_cons]
      exact congrArg (List.cons _) ih
  rw [course, answers, List.filterMap_append, List.filterMap_append]
  exact congrArg₂ (· ++ ·) ((congrArg₂ (· ++ ·) opening misses).trans (List.nil_append _)) rfl

theorem asleep_course (missed : ℕ) (last : Except ε Bool) :
    asleep (course w missed last) = missed * w.pause.nanos := by
  have opening : asleep (w.message.map announced).toList (ε := ε) = 0 := by
    cases w.message <;> rfl
  have pauses : asleep (List.replicate missed
      [tried (.ok !w.expected : Except ε Bool), slept w.pause]).flatten =
      missed * w.pause.nanos := by
    induction missed with
    | zero => simp [asleep]
    | succ missed ih =>
      rw [List.replicate_succ, List.flatten_cons, asleep, List.map_append, List.sum_append]
      simp only [asleep] at ih
      rw [ih]
      simp [tried, slept, Nat.add_mul, Nat.add_comm]
  rw [course, asleep, List.map_append, List.map_append, List.sum_append, List.sum_append]
  simp only [asleep] at opening pauses
  rw [opening, pauses]
  simp [tried]

theorem follows_course {script : ℕ → Except ε Bool} {missed : ℕ} {last : Except ε Bool} :
    Follows script (course w missed last) ↔
      (∀ i < missed, script i = .ok !w.expected) ∧ script missed = last := by
  rw [Follows, answers_course]
  constructor
  · intro follows
    refine ⟨fun i hi => (follows i _ ?_).symm, (follows missed _ ?_).symm⟩
    · rw [List.getElem?_append_left (by simpa using hi)]
      simp [hi]
    · simp
  · rintro ⟨earlier, rfl⟩ i a ha
    by_cases hi : i < missed
    · rw [List.getElem?_append_left (by simpa using hi), List.getElem?_replicate, if_pos hi] at ha
      rw [earlier i hi]
      exact (Option.some.inj ha).symm
    · rw [List.getElem?_append_right (by simpa using hi), List.length_replicate] at ha
      obtain ⟨at_end, rfl⟩ : i - missed = 0 ∧ script missed = a := by
        rcases hk : i - missed with _ | k <;> simp_all
      rw [show i = missed by omega]

end Trial

/-- Any answers bring the tries to an end. -/
theorem exists_conclusion (w : Wait) (onTimeout : Timeout → ε) (script : ℕ → Except ε Bool) {n : ℕ}
    (some : 0 < n) :
    ∃ missed res, missed < n ∧ (∀ i < missed, script i = .ok !w.expected) ∧
      Concludes w onTimeout (missed + 1 = n) (script missed) res := by
  induction n generalizing script with
  | zero => omega
  | succ n ih =>
    have once {res : Except ε Unit} {a : Except ε Bool} (first : script 0 = a)
        (concludes : Concludes w onTimeout (0 + 1 = n + 1) a res) :
        ∃ missed res, missed < n + 1 ∧ (∀ i < missed, script i = .ok !w.expected) ∧
          Concludes w onTimeout (missed + 1 = n + 1) (script missed) res :=
      ⟨0, res, some, by simp, first ▸ concludes⟩
    rcases first : script 0 with e | value
    · exact once first (.failed e)
    by_cases met : value = w.expected
    · exact once (met ▸ first) .met
    obtain rfl := Bool.eq_not.2 met
    rcases Nat.eq_zero_or_pos n with rfl | more
    · exact once first (.timedOut rfl)
    obtain ⟨missed, res, within, earlier, concludes⟩ := ih (fun i => script (i + 1)) more
    refine ⟨missed + 1, res, by omega, fun i hi => ?_, concludes.congr (by omega)⟩
    cases i with
    | zero => exact first
    | succ i => exact earlier i (by omega)

/-- **A script.** With given answers a wait has one run. -/
theorem Trial.runs_script (w : Wait) (onTimeout : Timeout → ε) (script : ℕ → Except ε Bool) :
    ∃ missed res, missed < w.limit ∧ (∀ i < missed, script i = .ok !w.expected) ∧
      Concludes w onTimeout (missed + 1 = w.limit) (script missed) res ∧
      ∀ t other, Runs (w.trial onTimeout).run t other ∧ Follows script t ↔
        t = course w missed (script missed) ∧ other = res := by
  have some : 0 < w.limit := triesWithin_pos
  obtain ⟨missed, res, within, earlier, concludes⟩ := exists_conclusion w onTimeout script some
  refine ⟨missed, res, within, earlier, concludes, fun t other => ⟨?_, ?_⟩⟩
  · rintro ⟨run, follows⟩
    obtain ⟨missed', last, rfl, within', concludes'⟩ := runs_trial.1 run
    obtain ⟨earlier', rfl⟩ := follows_course.1 follows
    rcases Nat.lt_trichotomy missed' missed with before | rfl | beyond
    · have noneLeft := (earlier missed' before ▸ concludes').of_miss
      omega
    · exact ⟨rfl, concludes'.unique concludes⟩
    · have noneLeft := (earlier' missed beyond ▸ concludes).of_miss
      omega
  · rintro ⟨rfl, rfl⟩
    exact ⟨runs_trial.2 ⟨missed, _, rfl, within, concludes⟩, follows_course.2 ⟨earlier, rfl⟩⟩

/-! ## Waits are alike -/

/-- Serves a wait by itself: a condition answers its questions. -/
def Trial.serving (condition : ExceptT ε (Program I) Bool) :
    (r : (Trial.interface ε).Request) → Program I ((Trial.interface ε).Answer r)
  | .attempt => condition.run
  | .sleep d => (sleep d).embed
  | .log entry => (log entry).embed

theorem run_tryWithin (w : Wait) (onTimeout : Timeout → ε)
    (condition : ExceptT ε (Program I) Bool) (budget : Duration) :
    (w.tryWithin onTimeout condition budget).run =
      (w.tryWithin onTimeout Trial.attempt budget).run.interpret (Trial.serving condition) := by
  induction hn : budget.nanos using Nat.strongRecOn generalizing budget with
  | ind n ih =>
    rw [tryWithin.eq_def w onTimeout condition, tryWithin.eq_def w onTimeout Trial.attempt,
      ExceptT.run_bind, ExceptT.run_bind]
    refine congrArg (condition.run >>= ·) (funext fun a => ?_)
    rcases a with e | value
    · rfl
    by_cases met : value = w.expected
    · simp only [Program.bind, if_pos met]
      rfl
    by_cases spent : (budget.less w.pause).nanos = 0
    · simp only [Program.bind, if_neg met, dif_pos spent]
      rfl
    · have shorter : (budget.less w.pause).nanos < n := by
        have := w.pause_pos
        simp only [Duration.less] at *
        omega
      simp only [Program.bind, if_neg met, dif_neg spent]
      rw [ExceptT.run_bind_lift, ih _ shorter _ rfl]
      rfl

/-- **Waits are alike.** A wait on a condition is the wait by itself with the condition in place of
its questions. -/
theorem run_awaitFallible (w : Wait) (onTimeout : Timeout → ε)
    (condition : ExceptT ε (Program I) Bool) :
    (w.awaitFallible onTimeout condition).run =
      (w.trial onTimeout).run.interpret (Trial.serving condition) := by
  rcases w with ⟨_ | text, timeout, retryDelay, inverted⟩
  · exact run_tryWithin _ onTimeout condition timeout
  · have rest :=
      run_tryWithin ⟨some text, timeout, retryDelay, inverted⟩ onTimeout condition timeout
    unfold awaitFallible
    dsimp only
    rw [ExceptT.run_bind_lift, rest]
    rfl

/-! ## What a wait does -/

theorem iterate_invert (message : Option String) (timeout retryDelay : Duration) (n : ℕ) :
    invert^[n] { message, timeout, retryDelay } =
      { message, timeout, retryDelay, inverted := decide ¬ Even n } := by
  induction n with
  | zero => simp
  | succ n ih =>
    rw [Function.iterate_succ_apply', ih, invert]
    simp [Nat.even_add_one, -Nat.not_even_iff_odd]

/-- **What a wait does.** Let its timeout allow `most` tries, each pause taking `delay`.

Given any answers, a wait that was inverted any number of times tries until the first answer that is
an error or the value that is awaited, which is `true` after an even number of inversions, and ends
with that error or well; if there is none among the first `most` it ends in a timeout after all of
them. It pauses after each try but the last. This is its only run with these answers, and what it
pauses is less than the timeout.

A wait on any condition is such a wait, the condition answering its questions; a condition that
cannot fail gives no errors. The waits for a condition to hold and to fail are inverted not at all
and once. -/
theorem wait_exact (message : Option String) (timeout retryDelay : Duration) (inversions : ℕ) :
    let plain : Wait := { message, timeout, retryDelay }
    let w : Wait := invert^[inversions] plain
    let delay : ℕ := max retryDelay.nanos 1000000
    let most : ℕ := max 1 (timeout.nanos ⌈/⌉ delay)
    let expected : Bool := decide (Even inversions)
    (∀ {ε : Type} (onTimeout : Timeout → ε) (script : ℕ → Except ε Bool),
      ∃ (missed : ℕ) (res : Except ε Unit), missed < most ∧
        (∀ i < missed, script i = .ok !expected) ∧
        ((∃ e, script missed = .error e ∧ res = .error e) ∨
          (script missed = .ok expected ∧ res = .ok ()) ∨
          (script missed = .ok !expected ∧ missed + 1 = most ∧
            res = .error (onTimeout ⟨message, expected, timeout⟩))) ∧
        (∀ t other, Runs (w.trial onTimeout).run t other ∧ Trial.Follows script t ↔
          t = (message.map Trial.announced).toList ++
            (List.replicate missed [Trial.tried (.ok !expected), Trial.slept ⟨delay⟩]).flatten ++
            [Trial.tried (script missed)] ∧ other = res) ∧
        (∀ t other, Runs (w.trial onTimeout).run t other → Trial.Follows script t →
          (Trial.answers t).length = missed + 1 ∧ Trial.asleep t = missed * delay) ∧
        (0 < missed → missed * delay < timeout.nanos)) ∧
    (∀ {I : Interface} [Interface.Embeds Wait.interface I],
      (∀ {ε : Type} (onTimeout : Timeout → ε) (condition : ExceptT ε (Program I) Bool),
        (w.awaitFallible onTimeout condition).run =
          (w.trial onTimeout).run.interpret (Trial.serving condition)) ∧
      ∀ condition : Program I Bool,
        w.await condition = w.awaitFallible id (ExceptT.lift condition) ∧
        ∀ {t} {value : Except Timeout Bool}, Runs (ExceptT.lift condition).run t value →
          ∃ b, value = .ok b) ∧
    forTrue message timeout retryDelay = invert^[0] plain ∧
    forFalse message timeout retryDelay = invert^[1] plain := by
  intro plain w delay most expected
  have form : w = ⟨message, timeout, retryDelay, decide ¬ Even inversions⟩ :=
    iterate_invert message timeout retryDelay inversions
  have awaits : w.expected = expected := by
    simp [form, Wait.expected, expected, -Nat.not_even_iff_odd]
  have pauses : w.pause = ⟨delay⟩ := by rw [form]; rfl
  have limits : w.limit = most := by rw [limit, triesWithin, pauses, form]
  have outcome : w.timedOut = ⟨message, expected, timeout⟩ := by rw [timedOut, awaits, form]
  have announces : w.message = message := by rw [form]
  refine ⟨fun {ε} onTimeout script => ?_, fun {I} _ => ⟨fun onTimeout condition => ?_,
    fun condition => ⟨rfl, ?_⟩⟩, rfl, rfl⟩
  · obtain ⟨missed, res, within, earlier, concludes, only⟩ := Trial.runs_script w onTimeout script
    have slept : 0 < missed → missed * delay < timeout.nanos := by
      have shorter : 0 < missed → missed * w.pause.nanos < w.timeout.nanos := mul_pause_lt within
      rwa [pauses, form] at shorter
    rw [limits] at within concludes
    rw [awaits] at earlier
    refine ⟨missed, res, within, earlier, ?_, ?_, ?_, slept⟩
    · generalize script missed = last at concludes
      cases concludes with
      | failed e => exact .inl ⟨e, rfl, rfl⟩
      | met => exact .inr (.inl ⟨by rw [awaits], rfl⟩)
      | timedOut noneLeft => exact .inr (.inr ⟨by rw [awaits], noneLeft, by rw [outcome]⟩)
    · intro t other
      rw [only, Trial.course, announces, awaits, pauses]
    · intro t other run follows
      obtain ⟨rfl, -⟩ := (only t other).1 ⟨run, follows⟩
      rw [Trial.answers_course, Trial.asleep_course, pauses]
      simp
  · exact run_awaitFallible w onTimeout condition
  · intro t value run
    obtain ⟨b, rfl, -⟩ := runs_lift.1 run
    exact ⟨b, rfl⟩

/-- A timeout of two delays and a half allows three tries. -/
theorem wait_exact_of_third_try :
    let w : Wait := invert^[2] { timeout := ⟨25000000⟩, retryDelay := ⟨10000000⟩ }
    let script : ℕ → Except Timeout Bool := fun i => .ok (decide (2 ≤ i))
    ∃ t, Runs (w.trial id).run t (.ok ()) ∧ Trial.Follows script t ∧
      (Trial.answers t).length = 3 ∧ Trial.asleep t = 20000000 := by
  intro w script
  have most : max 1 (25000000 ⌈/⌉ max 10000000 1000000) = 3 := by decide
  obtain ⟨given, -⟩ := wait_exact none ⟨25000000⟩ ⟨10000000⟩ 2
  obtain ⟨missed, res, within, earlier, ended, only, counted, -⟩ := given id script
  rw [most] at within ended
  obtain ⟨rfl, rfl⟩ : missed = 2 ∧ res = .ok () := by
    rcases ended with ⟨e, failed, -⟩ | ⟨met, rfl⟩ | ⟨miss, last, -⟩
    · cases failed
    · have third : 2 ≤ missed := by simpa [script] using met
      exact ⟨by omega, rfl⟩
    · obtain rfl : missed = 2 := by omega
      cases miss
  obtain ⟨run, follows⟩ := (only _ _).2 ⟨rfl, rfl⟩
  obtain ⟨tries, pauses⟩ := counted _ _ run follows
  exact ⟨_, run, follows, tries, pauses⟩

end Testbed.Wait
