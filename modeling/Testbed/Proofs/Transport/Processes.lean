import Testbed.Fault
import Testbed.Proofs.Transport.Lines
import Testbed.Proofs.Waiting.Tries
/-!
# The processes that a program runs

Of what a program says, entries for the log and pauses change nothing. What is left is the processes
that it runs and their answers (`Executes`), and a program in several parts executes what its parts
do, one after another.

Main statements: `executes_awaitFallible`, a wait goes on in rounds that miss until one meets it or
fails, or until none is left, and `executes_await` for a wait whose rounds cannot fail;
`existsUnique_scripted`, given answers make one run. `Works` is for programs of which it only
matters that they run something, and where.
-/
namespace Testbed.Transport

open Program

abbrev Executed := List String × Except IoError Output

/-- With these answers the program runs these processes, one after another, and ends in `a`. -/
def Executes {α : Type} (p : Program interface α) (r : List Executed) (a : α) : Prop :=
  ∃ t, Runs p t a ∧ ran t = r

variable {α β ε : Type} {r : List Executed}

/-! ## Parts of programs -/

theorem executes_done {a b : α} : Executes (.done a) r b ↔ r = [] ∧ b = a := by
  constructor
  · rintro ⟨t, run, rfl⟩
    obtain ⟨rfl, rfl⟩ := runs_done_iff.1 run
    exact ⟨rfl, rfl⟩
  · rintro ⟨rfl, rfl⟩
    exact ⟨[], .done b, rfl⟩

theorem executes_bind {p : Program interface α} {f : α → Program interface β} {b : β} :
    Executes (p >>= f) r b ↔ ∃ r₁ r₂ a, r = r₁ ++ r₂ ∧ Executes p r₁ a ∧ Executes (f a) r₂ b := by
  constructor
  · rintro ⟨t, run, rfl⟩
    obtain ⟨t₁, t₂, a, rfl, h₁, h₂⟩ := runs_bind.1 run
    exact ⟨ran t₁, ran t₂, a, ran_append .., ⟨t₁, h₁, rfl⟩, t₂, h₂, rfl⟩
  · rintro ⟨_, _, a, rfl, ⟨t₁, h₁, rfl⟩, t₂, h₂, rfl⟩
    exact ⟨t₁ ++ t₂, runs_bind.2 ⟨t₁, t₂, a, rfl, h₁, h₂⟩, ran_append ..⟩

theorem executes_then_done {p : Program interface α} {f : α → β} {b : β} :
    Executes (p >>= fun a => .done (f a)) r b ↔ ∃ a, b = f a ∧ Executes p r a := by
  constructor
  · rintro ⟨t, run, rfl⟩
    obtain ⟨a, rfl, first⟩ := runs_then_done.1 run
    exact ⟨a, rfl, t, first, rfl⟩
  · rintro ⟨a, rfl, t, run, rfl⟩
    exact ⟨t, runs_then_done.2 ⟨a, rfl, run⟩, rfl⟩

theorem executes_lift {p : Program interface α} {res : Except ε α} :
    Executes (ExceptT.lift p : ExceptT ε (Program interface) α).run r res ↔
      ∃ a, res = .ok a ∧ Executes p r a := by
  have step : (ExceptT.lift p : ExceptT ε (Program interface) α).run =
      p >>= fun a => .done (.ok a) := rfl
  rw [step, executes_then_done]

/-- A part that runs nothing. -/
theorem executes_log_bind {level : Log.Level} {source : Log.Source} {text : String}
    {f : Unit → Program interface β} {b : β} :
    Executes (log level source text >>= f) r b ↔ Executes (f ()) r b := by
  constructor
  · rintro ⟨_, run, rfl⟩
    obtain ⟨answer, t, rfl, rest⟩ := runs_ask_iff.1 run
    exact ⟨t, rest, rfl⟩
  · rintro ⟨t, rest, rfl⟩
    exact ⟨⟨.log ⟨level, source, text⟩, ()⟩ :: t, .ask rest, rfl⟩

theorem executes_try_log_bind {level : Log.Level} {source : Log.Source} {text : String}
    {f : Unit → ExceptT ε (Program interface) β} {res : Except ε β} :
    Executes (ExceptT.lift (log level source text) >>= f).run r res ↔
      Executes (f ()).run r res := by
  rw [ExceptT.run_bind_lift, executes_log_bind]

theorem executes_try_bind {x : ExceptT ε (Program interface) α}
    {f : α → ExceptT ε (Program interface) β} {res : Except ε β} :
    Executes (x >>= f).run r res ↔ (∃ e, res = .error e ∧ Executes x.run r (.error e)) ∨
      ∃ r₁ r₂ a, r = r₁ ++ r₂ ∧ Executes x.run r₁ (.ok a) ∧ Executes (f a).run r₂ res := by
  constructor
  · rintro ⟨t, run, rfl⟩
    rcases runs_try_bind.1 run with ⟨e, rfl, failed⟩ | ⟨t₁, t₂, a, rfl, h₁, h₂⟩
    · exact .inl ⟨e, rfl, t, failed, rfl⟩
    · exact .inr ⟨ran t₁, ran t₂, a, ran_append .., ⟨t₁, h₁, rfl⟩, t₂, h₂, rfl⟩
  · rintro (⟨e, rfl, t, failed, rfl⟩ | ⟨_, _, a, rfl, ⟨t₁, h₁, rfl⟩, t₂, h₂, rfl⟩)
    · exact ⟨t, runs_try_bind.2 (.inl ⟨e, rfl, failed⟩), rfl⟩
    · exact ⟨t₁ ++ t₂, runs_try_bind.2 (.inr ⟨t₁, t₂, a, rfl, h₁, h₂⟩), ran_append ..⟩

theorem executes_adapt {ε' : Type} {x : ExceptT ε (Program interface) α} {f : ε → ε'}
    {res : Except ε' α} :
    Executes (ExceptT.adapt f x).run r res ↔
      ∃ inner, res = inner.mapError f ∧ Executes x.run r inner := by
  rw [run_adapt, executes_then_done]

theorem executes_try_map {x : ExceptT ε (Program interface) α} {f : α → β} {res : Except ε β} :
    Executes (f <$> x).run r res ↔ ∃ inner, res = inner.map f ∧ Executes x.run r inner := by
  rw [run_map, executes_then_done]

/-! ## Errors that are not looked at -/

/-- With these answers the program ends in what is found, or in some error if that is nothing. -/
def Finds (x : ExceptT ε (Program interface) α) (r : List Executed) (found : Option α) : Prop :=
  ∃ res : Except ε α, Executes x.run r res ∧ res.toOption = found

variable {found : Option β}

theorem finds_bind {x : ExceptT ε (Program interface) α}
    {f : α → ExceptT ε (Program interface) β} :
    Finds (x >>= f) r found ↔ (found = none ∧ Finds x r none) ∨
      ∃ r₁ r₂ a, r = r₁ ++ r₂ ∧ Finds x r₁ (some a) ∧ Finds (f a) r₂ found := by
  constructor
  · rintro ⟨res, run, rfl⟩
    rcases executes_try_bind.1 run with ⟨e, rfl, failed⟩ | ⟨r₁, r₂, a, rfl, first, rest⟩
    · exact .inl ⟨rfl, .error e, failed, rfl⟩
    · exact .inr ⟨r₁, r₂, a, rfl, ⟨.ok a, first, rfl⟩, res, rest, rfl⟩
  · rintro (⟨rfl, e | a, failed, ended⟩ | ⟨r₁, r₂, a, rfl, ⟨e | a, first, ended⟩, res, rest, rfl⟩)
    · exact ⟨.error e, executes_try_bind.2 (.inl ⟨e, rfl, failed⟩), rfl⟩
    · cases ended
    · cases ended
    · cases ended
      exact ⟨res, executes_try_bind.2 (.inr ⟨r₁, r₂, a, rfl, first, rest⟩), rfl⟩

theorem finds_pure {a : β} :
    Finds (pure a : ExceptT ε (Program interface) β) r found ↔ r = [] ∧ found = some a := by
  constructor
  · rintro ⟨res, run, rfl⟩
    obtain ⟨rfl, rfl⟩ := executes_done.1 run
    exact ⟨rfl, rfl⟩
  · rintro ⟨rfl, rfl⟩
    exact ⟨.ok a, executes_done.2 ⟨rfl, rfl⟩, rfl⟩

theorem finds_throw {e : ε} :
    Finds (throw e : ExceptT ε (Program interface) β) r found ↔ r = [] ∧ found = none := by
  constructor
  · rintro ⟨res, run, rfl⟩
    obtain ⟨rfl, rfl⟩ := executes_done.1 run
    exact ⟨rfl, rfl⟩
  · rintro ⟨rfl, rfl⟩
    exact ⟨.error e, executes_done.2 ⟨rfl, rfl⟩, rfl⟩

theorem finds_map {x : ExceptT ε (Program interface) α} {f : α → β} :
    Finds (f <$> x) r found ↔ ∃ inner, found = inner.map f ∧ Finds x r inner := by
  constructor
  · rintro ⟨res, run, rfl⟩
    obtain ⟨inner, rfl, first⟩ := executes_try_map.1 run
    refine ⟨inner.toOption, ?_, inner, first, rfl⟩
    cases inner <;> rfl
  · rintro ⟨_, rfl, inner, first, rfl⟩
    refine ⟨inner.map f, executes_try_map.2 ⟨inner, rfl, first⟩, ?_⟩
    cases inner <;> rfl

/-- A program that goes on from an error, which is logged, with `false`. -/
theorem executes_or_false {x : ExceptT ε (Program interface) α} {f : α → Bool}
    {next : Except ε α → Program interface Bool} {value : Bool}
    (succeeds : ∀ a, next (.ok a) = .done (f a))
    (fails : ∀ e, ∃ level source text,
      next (.error e) = log level source text >>= fun _ => .done false) :
    Executes (x.run >>= next) r value ↔
      ∃ found, Finds x r found ∧ value = (found.map f).getD false := by
  have ended {res : Except ε α} {r : List Executed} :
      Executes (next res) r value ↔ r = [] ∧ value = (res.toOption.map f).getD false := by
    rcases res with e | a
    · obtain ⟨level, source, text, logs⟩ := fails e
      rw [logs, executes_log_bind, executes_done]
      rfl
    · rw [succeeds, executes_done]
      rfl
  rw [executes_bind]
  constructor
  · rintro ⟨r₁, r₂, res, rfl, ran, rest⟩
    obtain ⟨rfl, rfl⟩ := ended.1 rest
    rw [List.append_nil]
    exact ⟨_, ⟨res, ran, rfl⟩, rfl⟩
  · rintro ⟨_, ⟨res, ran, rfl⟩, rfl⟩
    exact ⟨r, [], res, (List.append_nil r).symm, ran, ended.2 ⟨rfl, rfl⟩⟩

/-! ## Lines -/

section Lines

variable {t : Transport} {host line : String} {o : RunOptions} {res : Except Failure Result}

/-- **What is run for a line, and its outcome.** -/
theorem executes_line  :
    Executes (t.runShell host line o).run r res ↔
      ∃ command banner a, Decides t host line o r command banner a ∧
        res = outcome host command o.check (a.map (withoutBanner banner)) := by
  constructor
  · rintro ⟨exchanges, run, rfl⟩
    obtain ⟨command, banner, a, decides, ended, -⟩ := (runs_runShell.1 run).decides
    exact ⟨command, banner, a, decides, ended⟩
  · rintro ⟨command, banner, a, decides, rfl⟩
    cases decides with
    | line a plain =>
      rw [map_withoutBanner_none]
      exact ⟨_, runs_runShell.2 (.line a plain), congrArg (List.cons _) (ran_noted _)⟩
    | afterProbe a strips reached =>
      exact ⟨_, runs_runShell.2 (.afterProbe a strips reached),
        congrArg (fun rest => _ :: _ :: rest) (ran_noted _)⟩
    | probe a strips missed =>
      rw [map_withoutBanner_none]
      exact ⟨_, runs_runShell.2 (.probe a strips missed), rfl⟩

/-- On a host whose banner stays, the line itself decides and nothing else is run. -/
theorem decides_plain_iff (plain : t.settings.stripBanner = false) 
    {command : String} {banner : Option (List UInt8)} {a : Except IoError Output} :
    Decides t host line o r command banner a ↔
      r = [(t.sshInvocation host o ++ [line], a)] ∧ command = line ∧ banner = none := by
  constructor
  · intro decides
    cases decides with
    | line a _ => exact ⟨rfl, rfl, rfl⟩
    | afterProbe a strips _ | probe a strips _ =>
      rw [plain] at strips
      cases strips
  · rintro ⟨rfl, rfl, rfl⟩
    exact .line a plain

theorem executes_plain_line (plain : t.settings.stripBanner = false)  :
    Executes (t.runShell host line o).run r res ↔
      ∃ a, r = [(t.sshInvocation host o ++ [line], a)] ∧ res = outcome host line o.check a := by
  rw [executes_line]
  constructor
  · rintro ⟨_, _, a, decides, rfl⟩
    obtain ⟨rfl, rfl, rfl⟩ := (decides_plain_iff plain).1 decides
    exact ⟨a, rfl, by rw [map_withoutBanner_none]⟩
  · rintro ⟨a, rfl, rfl⟩
    exact ⟨line, none, a, (decides_plain_iff plain).2 ⟨rfl, rfl, rfl⟩,
      by rw [map_withoutBanner_none]⟩

end Lines

/-! ## Waits -/

/-- What is run to wait for a value in at most `most` rounds, and whether it was met: in all rounds
before the last the other value was found. -/
inductive Phase (round : List Executed → Bool → Prop) (expected : Bool) (most : ℕ) :
    List Executed → Bool → Prop
  | met (missed : List (List Executed)) (last : List Executed) :
      (∀ s ∈ missed, round s !expected) → round last expected → missed.length < most →
      Phase round expected most (missed.flatten ++ last) true
  | spent (missed : List (List Executed)) :
      (∀ s ∈ missed, round s !expected) → missed.length = most →
      Phase round expected most missed.flatten false

theorem ran_flatten (ts : List (List (Exchange interface))) :
    ran ts.flatten = (ts.map ran).flatten := by
  induction ts with
  | nil => rfl
  | cons t ts ih => rw [List.flatten_cons, ran_append, ih, List.map_cons, List.flatten_cons]

/-- What is run to wait in at most `most` rounds for a value that may not be found out, and how that
ends: in all rounds before the last the other value was found, and an error ends the wait. -/
inductive Rounds (round : List Executed → Except ε Bool → Prop) (expected : Bool) (most : ℕ)
    (late : ε) : List Executed → Except ε Unit → Prop
  | failed (missed : List (List Executed)) (last : List Executed) (e : ε) :
      (∀ s ∈ missed, round s (.ok !expected)) → round last (.error e) → missed.length < most →
      Rounds round expected most late (missed.flatten ++ last) (.error e)
  | met (missed : List (List Executed)) (last : List Executed) :
      (∀ s ∈ missed, round s (.ok !expected)) → round last (.ok expected) →
      missed.length < most →
      Rounds round expected most late (missed.flatten ++ last) (.ok ())
  | spent (missed : List (List Executed)) :
      (∀ s ∈ missed, round s (.ok !expected)) → missed.length = most →
      Rounds round expected most late missed.flatten (.error late)

section Waits

variable {w : Wait} {onTimeout : Wait.Timeout → ε} {condition : ExceptT ε (Program interface) Bool}

theorem executes_of_missed {t : List (Exchange interface)} (missed : w.Missed condition t) :
    Executes condition.run (ran t) (.ok !w.expected) := by
  obtain ⟨tried, paused, rfl, attempt, pause⟩ := missed
  obtain rfl := (runs_request_iff (I := interface)).1 pause
  refine ⟨tried, attempt, ?_⟩
  rw [ran_append]
  exact (List.append_nil _).symm

/-- Rounds that miss can be gone through, each with its pause. -/
theorem exists_missed {missed : List (List Executed)}
    (misses : ∀ s ∈ missed, Executes condition.run s (.ok !w.expected)) :
    ∃ ts : List (List (Exchange interface)),
      (∀ t ∈ ts, w.Missed condition t) ∧ ts.map ran = missed := by
  induction missed with
  | nil => exact ⟨[], nofun, rfl⟩
  | cons s missed ih =>
    obtain ⟨t, run, rfl⟩ := misses _ (List.mem_cons_self ..)
    obtain ⟨ts, rounds, rfl⟩ := ih fun s hs => misses s (List.mem_cons_of_mem _ hs)
    refine ⟨(t ++ [⟨.sleep w.pause, ()⟩]) :: ts, ?_, ?_⟩
    · intro u hu
      rcases List.mem_cons.1 hu with rfl | hu
      · exact ⟨t, _, rfl, run, .ask (.done ())⟩
      · exact rounds u hu
    · rw [List.map_cons, ran_append]
      exact congrArg (· :: ts.map ran) (List.append_nil _)

theorem ran_of_opening {t : List (Exchange interface)} (opening : w.Opening t) : ran t = [] := by
  rcases w with ⟨_ | text, timeout, retryDelay, inverted⟩
  · exact congrArg ran opening
  · obtain rfl := (runs_request_iff (I := interface)).1 opening
    rfl

theorem exists_opening (w : Wait) : ∃ t : List (Exchange interface), w.Opening t := by
  rcases w with ⟨_ | text, timeout, retryDelay, inverted⟩
  · exact ⟨[], rfl⟩
  · exact ⟨_, .ask (.done ())⟩

theorem rounds_of_tried {t : List (Exchange interface)} {n : ℕ} {res : Except ε Unit}
    (tried : w.Tried onTimeout condition n t res) :
    Rounds (Executes condition.run) w.expected n (onTimeout w.timedOut) (ran t) res := by
  obtain ⟨missed, last, a, misses, attempt, within, concludes⟩ := tried
  have rounds : ∀ s ∈ missed.map ran, Executes condition.run s (.ok !w.expected) := by
    intro s hs
    obtain ⟨t, ht, rfl⟩ := List.mem_map.1 hs
    exact executes_of_missed (misses t ht)
  rw [ran_append, ran_flatten]
  cases concludes with
  | failed e => exact .failed _ _ e rounds ⟨last, attempt, rfl⟩ (by simpa using within)
  | met => exact .met _ _ rounds ⟨last, attempt, rfl⟩ (by simpa using within)
  | timedOut noneLeft =>
    have all : Rounds (Executes condition.run) w.expected n (onTimeout w.timedOut)
        (missed.map ran ++ [ran last]).flatten (.error (onTimeout w.timedOut)) := by
      refine .spent _ ?_ (by simpa using noneLeft)
      intro s hs
      rcases List.mem_append.1 hs with hs | hs
      · exact rounds s hs
      · obtain rfl := List.mem_singleton.1 hs
        exact ⟨last, attempt, rfl⟩
    rwa [List.flatten_append, List.flatten_singleton] at all

theorem exists_tried_of_rounds {n : ℕ} {res : Except ε Unit} (some : 0 < n)
    (rounds : Rounds (Executes condition.run) w.expected n (onTimeout w.timedOut) r res) :
    ∃ t, w.Tried onTimeout condition n t res ∧ ran t = r := by
  cases rounds with
  | failed missed last e misses fails within =>
    obtain ⟨ts, rounds, rfl⟩ := exists_missed misses
    obtain ⟨t, run, rfl⟩ := fails
    refine ⟨ts.flatten ++ t, .intro ts t _ rounds run (by simpa using within) (.failed e), ?_⟩
    rw [ran_append, ran_flatten]
  | met missed last misses meets within =>
    obtain ⟨ts, rounds, rfl⟩ := exists_missed misses
    obtain ⟨t, run, rfl⟩ := meets
    refine ⟨ts.flatten ++ t, .intro ts t _ rounds run (by simpa using within) .met, ?_⟩
    rw [ran_append, ran_flatten]
  | spent missed misses all =>
    -- a wait tells its last try from those that miss before it
    obtain ⟨earlier, last, rfl⟩ : ∃ earlier last, missed = earlier ++ [last] := by
      rcases List.eq_nil_or_concat missed with rfl | ⟨earlier, last, rfl⟩
      · cases all
        cases some
      · exact ⟨earlier, last, List.concat_eq_append ..⟩
    obtain ⟨ts, rounds, rfl⟩ := exists_missed fun s hs => misses s (List.mem_append_left _ hs)
    obtain ⟨t, run, rfl⟩ := misses last (by simp)
    have length : ts.length + 1 = n := by simpa using all
    refine ⟨ts.flatten ++ t, .intro ts t _ rounds run (by omega) (.timedOut length), ?_⟩
    rw [ran_append, ran_flatten, List.flatten_append, List.flatten_singleton]

/-- **A wait that may fail.** Its condition is tried in rounds, and an error of a round is the error
of the wait. -/
theorem executes_awaitFallible {res : Except ε Unit} :
    Executes (w.awaitFallible onTimeout condition).run r res ↔
      Rounds (Executes condition.run) w.expected w.limit (onTimeout w.timedOut) r res := by
  constructor
  · rintro ⟨t, run, rfl⟩
    obtain ⟨opening, rest, rfl, opens, tried⟩ := Wait.runs_awaitFallible.1 run
    rw [ran_append, ran_of_opening opens, List.nil_append]
    exact rounds_of_tried tried
  · intro rounds
    obtain ⟨opening, opens⟩ := exists_opening w
    obtain ⟨t, tried, rfl⟩ := exists_tried_of_rounds Wait.triesWithin_pos rounds
    refine ⟨opening ++ t, Wait.runs_awaitFallible.2 ⟨opening, t, rfl, opens, tried⟩, ?_⟩
    rw [ran_append, ran_of_opening opens, List.nil_append]

/-- If no round fails, the rounds make a phase. -/
theorem rounds_iff_phase {round : List Executed → Bool → Prop} {expected : Bool} {most : ℕ}
    {late : ε} {res : Except ε Unit} :
    Rounds (fun s a => ∃ value, a = .ok value ∧ round s value) expected most late r res ↔
      ∃ met, Phase round expected most r met ∧ res = if met then .ok () else .error late := by
  have found {s : List Executed} {value : Bool} :
      (∃ other, (.ok value : Except ε Bool) = .ok other ∧ round s other) ↔ round s value :=
    ⟨fun ⟨_, same, h⟩ => Except.ok.inj same ▸ h, fun h => ⟨value, rfl, h⟩⟩
  constructor
  · intro rounds
    cases rounds with
    | failed missed last e misses fails within =>
      obtain ⟨_, never, -⟩ := fails
      cases never
    | met missed last misses meets within =>
      exact ⟨true, .met _ _ (fun s hs => found.1 (misses s hs)) (found.1 meets) within, rfl⟩
    | spent missed misses all =>
      exact ⟨false, .spent _ (fun s hs => found.1 (misses s hs)) all, rfl⟩
  · rintro ⟨_, phase, rfl⟩
    cases phase with
    | met missed last misses meets within =>
      exact .met _ _ (fun s hs => found.2 (misses s hs)) (found.2 meets) within
    | spent missed misses all => exact .spent _ (fun s hs => found.2 (misses s hs)) all

/-- **A wait.** Its condition is tried in rounds, and that the rounds are used up is the only way
for it to fail. -/
theorem executes_await {condition : Program interface Bool} {res : Except Fault Unit} :
    Executes (Operation.await w condition).run r res ↔
      ∃ met, Phase (Executes condition) w.expected w.limit r met ∧
        res = if met then .ok () else .error (.timeout w.timedOut) := by
  have unfailing : Executes (ExceptT.lift condition : ExceptT Wait.Timeout _ Bool).run =
      fun s a => ∃ value, a = .ok value ∧ Executes condition s value :=
    funext₂ fun s a => propext executes_lift
  have waits {inner : Except Wait.Timeout Unit} :
      Executes (w.await condition).run r inner ↔ ∃ met,
        Phase (Executes condition) w.expected w.limit r met ∧
          inner = if met then .ok () else .error w.timedOut := by
    rw [Wait.await, executes_awaitFallible, unfailing, rounds_iff_phase]
    rfl
  rw [Operation.await, executes_adapt]
  constructor
  · rintro ⟨_, rfl, run⟩
    obtain ⟨met, phase, rfl⟩ := waits.1 run
    refine ⟨met, phase, ?_⟩
    cases met <;> rfl
  · rintro ⟨met, phase, rfl⟩
    refine ⟨_, ?_, waits.2 ⟨met, phase, rfl⟩⟩
    cases met <;> rfl

end Waits

/-! ## Programs that run something -/

/-- The requests of a program are of a kind, and it runs one process at least, whatever it is
answered. -/
structure Works (kind : Request → Prop) (p : Program interface α) : Prop where
  asks : p.AsksOnly (I := interface) kind
  some : ∀ {t : List (Exchange interface)} {a : α}, Runs p t a → ran t ≠ []

section Works

variable {kind : Request → Prop}

theorem works_runShell {t : Transport} {host line : String} {o : RunOptions}
    (runs : ∀ line, kind (.run (t.sshInvocation host o ++ [line])))
    (logs : ∀ entry, kind (.log entry)) : Works kind (t.runShell host line o).run := by
  refine ⟨asksOnly_runShell (runs _) (runs _) logs, fun run => ?_⟩
  obtain ⟨_, _, _, decides, -⟩ := decides_of_line run
  generalize ran _ = processes at decides ⊢
  cases decides <;> exact List.cons_ne_nil _ _

theorem Works.try_bind {x : ExceptT ε (Program interface) α}
    {f : α → ExceptT ε (Program interface) β} (first : Works kind x.run)
    (rest : ∀ a, (f a).run.AsksOnly (I := interface) kind) : Works kind (x >>= f).run := by
  refine ⟨asksOnly_try_bind first.asks rest, fun run => ?_⟩
  rcases runs_try_bind.1 run with ⟨e, rfl, failed⟩ | ⟨t₁, t₂, a, rfl, begun, -⟩
  · exact first.some failed
  · rw [ran_append]
    exact List.append_ne_nil_of_left_ne_nil (first.some begun) _

theorem Works.try_map {x : ExceptT ε (Program interface) α} {f : α → β}
    (works : Works kind x.run) : Works kind (f <$> x).run := by
  refine ⟨asksOnly_try_map works.asks, fun run => ?_⟩
  obtain ⟨_, -, inner⟩ := runs_try_map.1 run
  exact works.some inner

theorem Works.adapt {ε' : Type} {x : ExceptT ε (Program interface) α} {f : ε → ε'}
    (works : Works kind x.run) : Works kind (ExceptT.adapt f x).run := by
  refine ⟨asksOnly_adapt works.asks, fun run => ?_⟩
  obtain ⟨_, -, inner⟩ := runs_adapt.1 run
  exact works.some inner

theorem Works.after_log {level : Log.Level} {source : Log.Source} {text : String}
    {f : Unit → Operation β} (logs : ∀ entry, kind (.log entry)) (works : Works kind (f ()).run) :
    Works kind (Operation.log level source text >>= f).run := by
  refine ⟨asksOnly_try_bind (asksOnly_lift ⟨logs _, fun _ => trivial⟩) fun _ => works.asks,
    fun run => ?_⟩
  obtain ⟨t₁, t₂, _, rfl, -, rest⟩ := runs_lift_bind.1 run
  rw [ran_append]
  exact List.append_ne_nil_of_right_ne_nil _ (works.some rest)

theorem Works.wait {w : Wait} {onTimeout : Wait.Timeout → ε}
    {condition : ExceptT ε (Program interface) Bool} (tries : Works kind condition.run)
    (sleeps : ∀ d, kind (.sleep d)) (logs : ∀ entry, kind (.log entry)) :
    Works kind (w.awaitFallible onTimeout condition).run := by
  refine ⟨asksOnly_wait tries.asks sleeps logs, fun run => ?_⟩
  obtain ⟨_, _, rfl, -, missed, last, a, -, tried, -⟩ := Wait.runs_awaitFallible.1 run
  rw [ran_append, ran_append]
  exact List.append_ne_nil_of_right_ne_nil _
    (List.append_ne_nil_of_right_ne_nil _ (tries.some tried))

end Works

/-! ## Scripts -/

/-- The processes that were run were answered by the script, one after another. -/
def Scripted (script : ℕ → Except IoError Output) (t : List (Exchange interface)) : Prop :=
  ∀ i x, (ran t)[i]? = some x → x.2 = script i

variable {script : ℕ → Except IoError Output}

theorem Scripted.append {t₁ t₂ : List (Exchange interface)} (h₁ : Scripted script t₁)
    (h₂ : Scripted (fun i => script ((ran t₁).length + i)) t₂) : Scripted script (t₁ ++ t₂) := by
  intro i x hx
  rw [ran_append] at hx
  by_cases first : i < (ran t₁).length
  · rw [List.getElem?_append_left first] at hx
    exact h₁ i x hx
  · rw [List.getElem?_append_right (by omega)] at hx
    have later := h₂ _ x hx
    simp only [Nat.add_sub_cancel' (Nat.not_lt.1 first)] at later
    exact later

theorem scripted_run {argv : List String} {a : Except IoError Output}
    {t : List (Exchange interface)} :
    Scripted script (⟨.run argv, a⟩ :: t) ↔
      a = script 0 ∧ Scripted (fun i => script (i + 1)) t := by
  constructor
  · exact fun h => ⟨h 0 (argv, a) rfl, fun i x hx => h (i + 1) x hx⟩
  · rintro ⟨rfl, later⟩ (_ | i) x hx
    · cases hx
      rfl
    · exact later i x hx

/-- A program has a run for any script. -/
theorem exists_runs_scripted (script : ℕ → Except IoError Output) (p : Program interface α) :
    ∃ t a, Runs p t a ∧ Scripted script t := by
  induction p generalizing script with
  | done a => exact ⟨[], a, .done a, nofun⟩
  | ask r next ih =>
    cases r with
    | run argv =>
      obtain ⟨t, b, run, scripted⟩ := ih (script 0) fun i => script (i + 1)
      exact ⟨⟨.run argv, script 0⟩ :: t, b, .ask run, scripted_run.2 ⟨rfl, scripted⟩⟩
    | start argv log =>
      obtain ⟨t, b, run, scripted⟩ := ih (.error ⟨"unused"⟩) script
      exact ⟨⟨.start argv log, .error ⟨"unused"⟩⟩ :: t, b, .ask run, scripted⟩
    | sleep d =>
      obtain ⟨t, b, run, scripted⟩ := ih () script
      exact ⟨⟨.sleep d, ()⟩ :: t, b, .ask run, scripted⟩
    | log entry =>
      obtain ⟨t, b, run, scripted⟩ := ih () script
      exact ⟨⟨.log entry, ()⟩ :: t, b, .ask run, scripted⟩

/-- A request for anything but a process that is left running. -/
def Waited (r : Request) : Prop := ∀ argv log, r ≠ .start argv log

theorem eq_of_scripted {p : Program interface α}
    (waits : p.AsksOnly (I := interface) Waited) {t₁ t₂ : List (Exchange interface)} {a₁ a₂ : α}
    (run₁ : Runs p t₁ a₁) (scripted₁ : Scripted script t₁) (run₂ : Runs p t₂ a₂)
    (scripted₂ : Scripted script t₂) : t₁ = t₂ ∧ a₁ = a₂ := by
  induction p generalizing script t₁ t₂ with
  | done a =>
    obtain ⟨rfl, rfl⟩ := runs_done_iff.1 run₁
    obtain ⟨rfl, rfl⟩ := runs_done_iff.1 run₂
    exact ⟨rfl, rfl⟩
  | ask r next ih =>
    obtain ⟨x₁, rest₁, rfl, after₁⟩ := runs_ask_iff.1 run₁
    obtain ⟨x₂, rest₂, rfl, after₂⟩ := runs_ask_iff.1 run₂
    -- processes take their answers from the script; a pause and a log entry have one answer only
    cases r with
    | run argv =>
      obtain ⟨rfl, later₁⟩ := scripted_run.1 scripted₁
      obtain ⟨rfl, later₂⟩ := scripted_run.1 scripted₂
      obtain ⟨rfl, same⟩ := ih _ (waits.2 _) after₁ later₁ after₂ later₂
      exact ⟨rfl, same⟩
    | start argv log => exact absurd rfl (waits.1 argv log)
    | sleep d | log entry =>
      obtain ⟨rfl, same⟩ := ih () (waits.2 _) after₁ scripted₁ after₂ scripted₂
      exact ⟨rfl, same⟩

theorem waited_runShell {t : Transport} {host line : String} {o : RunOptions} :
    (t.runShell host line o).run.AsksOnly (I := interface) Waited :=
  asksOnly_runShell nofun nofun fun _ => nofun

theorem waited_await {w : Wait} {condition : Program interface Bool}
    (waits : condition.AsksOnly Waited) :
    (Operation.await w condition).run.AsksOnly (I := interface) Waited :=
  asksOnly_adapt (asksOnly_wait (asksOnly_lift waits) (fun _ => nofun) fun _ => nofun)

/-- **One run for a script.** A program that leaves no process running does one thing with given
answers. -/
theorem existsUnique_scripted (script : ℕ → Except IoError Output) {p : Program interface α}
    (waits : p.AsksOnly (I := interface) Waited) :
    ∃! run : List (Exchange interface) × α, Runs p run.1 run.2 ∧ Scripted script run.1 := by
  obtain ⟨t, a, run, scripted⟩ := exists_runs_scripted script p
  refine ⟨(t, a), ⟨run, scripted⟩, ?_⟩
  rintro ⟨t', a'⟩ ⟨run', scripted'⟩
  obtain ⟨rfl, rfl⟩ := eq_of_scripted waits run scripted run' scripted'
  rfl

/-- **One result for what was run.** Two runs of a program in which the same processes were run and
answered in the same way have the same result. -/
theorem Executes.unique {p : Program interface α} (waits : p.AsksOnly (I := interface) Waited)
    {a b : α} (first : Executes p r a) (second : Executes p r b) : a = b := by
  obtain ⟨t₁, run₁, ran₁⟩ := first
  obtain ⟨t₂, run₂, ran₂⟩ := second
  -- both runs follow the script of what was answered
  let script (i : ℕ) : Except IoError Output := ((r[i]?).map Prod.snd).getD (.error ⟨"unused"⟩)
  have scripted {t : List (Exchange interface)} (whole : ran t = r) : Scripted script t := by
    intro i x answered
    rw [whole] at answered
    simp [script, answered]
  exact (eq_of_scripted waits run₁ (scripted ran₁) run₂ (scripted ran₂)).2

/-- Any answers to the processes of a program make one run of it. -/
def Determined (p : Program interface α) : Prop :=
  ∀ script : ℕ → Except IoError Output,
    ∃! run : List (Exchange interface) × α, Runs p run.1 run.2 ∧ Scripted script run.1

theorem determined {p : Program interface α} (waits : p.AsksOnly (I := interface) Waited) :
    Determined p := fun script => existsUnique_scripted script waits

end Testbed.Transport
