import Testbed.Program
/-!
# Taking runs apart

A run of a program in several parts is a run of each part, one after another. The lemmas here undo
one layer of a program at a time: a single request, a result, and the parts of a program that ends
at its first error (`runs_try_bind`). With them a program is followed from its text, and nothing
about the answers is assumed on the way. What holds of all requests in the text (`AsksOnly`) holds
of whatever is said in a run (`asksOnly_of_runs`). A program that is served by a world with a state
has one of its runs (`interpret_eq_iff`).
-/
namespace Testbed.Program

variable {I : Interface} {α β ε : Type} {t : List (Exchange I)}

theorem runs_request_iff {r : I.Request} {a : I.Answer r} :
    Runs (request r) t a ↔ t = [⟨r, a⟩] := by
  constructor
  · intro h
    obtain ⟨answer, rest, rfl, ended⟩ := runs_ask_iff.1 h
    obtain ⟨rfl, rfl⟩ := runs_done_iff.1 ended
    rfl
  · rintro rfl
    exact .ask (.done a)

/-- A run whose first exchange is known. -/
theorem runs_ask_cons {r : I.Request} {next : I.Answer r → Program I α} {answer : I.Answer r}
    {a : α} : Runs (.ask r next) (⟨r, answer⟩ :: t) a ↔ Runs (next answer) t a := by
  constructor
  · intro h
    cases h with
    | ask h => exact h
  · exact .ask

theorem runs_pure_iff {a b : α} : Runs (pure a : Program I α) t b ↔ t = [] ∧ b = a :=
  runs_done_iff

/-- A result that is put in other words. -/
theorem runs_then_done {p : Program I α} {f : α → β} {b : β} :
    Runs (p >>= fun a => .done (f a)) t b ↔ ∃ a, b = f a ∧ Runs p t a := by
  rw [runs_bind]
  constructor
  · rintro ⟨t₁, t₂, a, rfl, h₁, h₂⟩
    obtain ⟨rfl, rfl⟩ := runs_done_iff.1 h₂
    exact ⟨a, rfl, by simpa using h₁⟩
  · rintro ⟨a, rfl, h⟩
    exact ⟨t, [], a, by simp, h, .done _⟩

/-! ## Programs that end at the first error -/

theorem runs_try_pure {a : α} {res : Except ε α} :
    Runs (pure a : ExceptT ε (Program I) α).run t res ↔ t = [] ∧ res = .ok a :=
  runs_done_iff

theorem runs_throw {e : ε} {res : Except ε α} :
    Runs (throw e : ExceptT ε (Program I) α).run t res ↔ t = [] ∧ res = .error e :=
  runs_done_iff

theorem runs_lift {p : Program I α} {res : Except ε α} :
    Runs (ExceptT.lift p : ExceptT ε (Program I) α).run t res ↔ ∃ a, res = .ok a ∧ Runs p t a := by
  have step : (ExceptT.lift p : ExceptT ε (Program I) α).run = p >>= fun a => .done (.ok a) := rfl
  rw [step, runs_then_done]

/-- **Two parts, the first of which may fail.** Either the first part fails and that is all, or the
second part follows it. -/
theorem runs_try_bind {x : ExceptT ε (Program I) α} {f : α → ExceptT ε (Program I) β}
    {res : Except ε β} :
    Runs (x >>= f).run t res ↔ (∃ e, res = .error e ∧ Runs x.run t (.error e)) ∨
      ∃ t₁ t₂ a, t = t₁ ++ t₂ ∧ Runs x.run t₁ (.ok a) ∧ Runs (f a).run t₂ res := by
  rw [ExceptT.run_bind, runs_bind]
  constructor
  · rintro ⟨t₁, t₂, e | a, rfl, h₁, h₂⟩
    · obtain ⟨rfl, rfl⟩ := runs_done_iff.1 h₂
      exact .inl ⟨e, rfl, by simpa using h₁⟩
    · exact .inr ⟨t₁, t₂, a, rfl, h₁, h₂⟩
  · rintro (⟨e, rfl, h⟩ | ⟨t₁, t₂, a, rfl, h₁, h₂⟩)
    · exact ⟨t, [], .error e, by simp, h, .done _⟩
    · exact ⟨t₁, t₂, .ok a, rfl, h₁, h₂⟩

/-- A part that cannot fail is followed by the next. -/
theorem runs_lift_bind {p : Program I α} {f : α → ExceptT ε (Program I) β} {res : Except ε β} :
    Runs (ExceptT.lift p >>= f).run t res ↔
      ∃ t₁ t₂ a, t = t₁ ++ t₂ ∧ Runs p t₁ a ∧ Runs (f a).run t₂ res := by
  rw [runs_try_bind]
  constructor
  · rintro (⟨e, rfl, h⟩ | ⟨t₁, t₂, a, rfl, h₁, h₂⟩)
    · obtain ⟨_, he, -⟩ := runs_lift.1 h
      cases he
    · obtain ⟨_, he, h₁⟩ := runs_lift.1 h₁
      cases he
      exact ⟨t₁, t₂, a, rfl, h₁, h₂⟩
  · rintro ⟨t₁, t₂, a, rfl, h₁, h₂⟩
    exact .inr ⟨t₁, t₂, a, rfl, runs_lift.2 ⟨a, rfl, h₁⟩, h₂⟩

/-- A part whose errors are put in other words. -/
theorem runs_mapError {ε' : Type} {p : Program I (Except ε' α)} {f : ε' → ε} {res : Except ε α} :
    Runs (ExceptT.mk do return (← p).mapError f : ExceptT ε (Program I) α).run t res ↔
      ∃ a, res = a.mapError f ∧ Runs p t a := by
  have step : (ExceptT.mk do return (← p).mapError f : ExceptT ε (Program I) α).run =
      p >>= fun a => .done (a.mapError f) := rfl
  rw [step, runs_then_done]

theorem run_map {x : ExceptT ε (Program I) α} {f : α → β} :
    (f <$> x).run = x.run >>= fun res => .done (res.map f) := by
  rw [ExceptT.run_map]
  rfl

theorem run_adapt {ε' : Type} {x : ExceptT ε (Program I) α} {f : ε → ε'} :
    (ExceptT.adapt f x).run = x.run >>= fun res => .done (res.mapError f) := rfl

/-- A part whose result is put in other words. -/
theorem runs_try_map {x : ExceptT ε (Program I) α} {f : α → β} {res : Except ε β} :
    Runs (f <$> x).run t res ↔ ∃ r, res = r.map f ∧ Runs x.run t r := by
  rw [run_map, runs_then_done]

/-- A part whose errors are those of another kind. -/
theorem runs_adapt {ε' : Type} {x : ExceptT ε (Program I) α} {f : ε → ε'} {res : Except ε' α} :
    Runs (ExceptT.adapt f x).run t res ↔ ∃ r, res = r.mapError f ∧ Runs x.run t r := by
  rw [run_adapt, runs_then_done]

/-! ## The kinds of requests -/

/-- Every request of a program, whatever it is answered, is of a kind. -/
def AsksOnly (kind : I.Request → Prop) : Program I α → Prop
  | .done _ => True
  | .ask r next => kind r ∧ ∀ answer, (next answer).AsksOnly kind

theorem asksOnly_mono {kind other : I.Request → Prop} (wider : ∀ r, kind r → other r)
    {p : Program I α} (hp : p.AsksOnly kind) : p.AsksOnly other := by
  induction p with
  | done a => trivial
  | ask r next ih => exact ⟨wider r hp.1, fun answer => ih answer (hp.2 answer)⟩

theorem asksOnly_bind {kind : I.Request → Prop} {p : Program I α} {f : α → Program I β}
    (hp : p.AsksOnly kind) (hf : ∀ a, (f a).AsksOnly kind) : (p >>= f).AsksOnly kind := by
  induction p with
  | done a => exact hf a
  | ask r next ih => exact ⟨hp.1, fun answer => ih answer (hp.2 answer)⟩

theorem asksOnly_of_runs {kind : I.Request → Prop} {p : Program I α} {t : List (Exchange I)} {a : α}
    (run : Runs p t a) (hp : p.AsksOnly kind) : ∀ e ∈ t, kind e.request := by
  induction run with
  | done => simp
  | ask _ ih =>
    intro e he
    rcases List.mem_cons.1 he with rfl | he
    · exact hp.1
    · exact ih (hp.2 _) e he

theorem asksOnly_try_bind {kind : I.Request → Prop} {x : ExceptT ε (Program I) α}
    {f : α → ExceptT ε (Program I) β} (hx : x.run.AsksOnly kind)
    (hf : ∀ a, (f a).run.AsksOnly kind) : (x >>= f).run.AsksOnly kind := by
  rw [ExceptT.run_bind]
  refine asksOnly_bind hx fun res => ?_
  rcases res with e | a
  · trivial
  · exact hf a

theorem asksOnly_lift {kind : I.Request → Prop} {p : Program I α} (hp : p.AsksOnly kind) :
    (ExceptT.lift p : ExceptT ε (Program I) α).run.AsksOnly kind :=
  asksOnly_bind hp fun _ => trivial

theorem asksOnly_try_map {kind : I.Request → Prop} {x : ExceptT ε (Program I) α} {f : α → β}
    (hx : x.run.AsksOnly kind) : (f <$> x).run.AsksOnly kind := by
  rw [run_map]
  exact asksOnly_bind hx fun _ => trivial

theorem asksOnly_adapt {ε' : Type} {kind : I.Request → Prop} {x : ExceptT ε (Program I) α}
    {f : ε → ε'} (hx : x.run.AsksOnly kind) : (ExceptT.adapt f x).run.AsksOnly kind := by
  rw [run_adapt]
  exact asksOnly_bind hx fun _ => trivial

/-! ## Given answers -/

/-- The exchanges and the result of a program whose requests are answered by a function. -/
def follow (answer : (r : I.Request) → I.Answer r) : Program I α → List (Exchange I) × α
  | .done a => ([], a)
  | .ask r next =>
    let rest := (next (answer r)).follow answer
    (⟨r, answer r⟩ :: rest.1, rest.2)

theorem runs_follow (answer : (r : I.Request) → I.Answer r) (p : Program I α) :
    p.Runs (p.follow answer).1 (p.follow answer).2 := by
  induction p with
  | done a => exact .done a
  | ask r next ih => exact .ask (ih (answer r))

theorem forall_follow {answer : (r : I.Request) → I.Answer r} {P : Exchange I → Prop}
    (h : ∀ r, P ⟨r, answer r⟩) (p : Program I α) : ∀ e ∈ (p.follow answer).1, P e := by
  induction p with
  | done a => simp [follow]
  | ask r next ih =>
    intro e he
    rcases List.mem_cons.1 he with rfl | he
    · exact h r
    · exact ih _ e he

/-! ## A world with a state -/

/-- What is said to a world that answers from a state of its own, and the state afterwards. -/
inductive Served {σ : Type} (serve : (r : I.Request) → StateM σ (I.Answer r)) :
    σ → List (Exchange I) → σ → Prop
  | rest (w : σ) : Served serve w [] w
  | answered {w w' w'' : σ} {r : I.Request} {answer : I.Answer r} {rest : List (Exchange I)} :
      (serve r).run w = (answer, w') → Served serve w' rest w'' →
      Served serve w (⟨r, answer⟩ :: rest) w''

variable {σ : Type} {serve : (r : I.Request) → StateM σ (I.Answer r)}

/-- **A program in such a world.** It has one of its runs, in which the world gives the answers. -/
theorem interpret_eq_iff {p : Program I α} {w w' : σ} {a : α} :
    (p.interpret serve).run w = (a, w') ↔ ∃ t, Runs p t a ∧ Served serve w t w' := by
  induction p generalizing w with
  | done b =>
    constructor
    · intro ended
      obtain ⟨rfl, rfl⟩ := Prod.mk.inj ended
      exact ⟨[], .done _, .rest _⟩
    · rintro ⟨t, run, served⟩
      obtain ⟨rfl, rfl⟩ := runs_done_iff.1 run
      cases served
      rfl
  | ask r next ih =>
    have first : ((Program.ask r next).interpret serve).run w =
        ((next ((serve r).run w).1).interpret serve).run ((serve r).run w).2 := rfl
    rw [first, ih]
    constructor
    · rintro ⟨t, run, served⟩
      exact ⟨_, .ask run, .answered rfl served⟩
    · rintro ⟨t, run, served⟩
      cases run with
      | ask run =>
        cases served with
        | answered given served =>
          rw [given]
          exact ⟨_, run, served⟩

/-- A second program begins in the state that the first one leaves. -/
theorem interpret_bind_of {p : Program I α} {f : α → Program I β} {w w' : σ} {a : α}
    (first : (p.interpret serve).run w = (a, w')) :
    ((p >>= f).interpret serve).run w = ((f a).interpret serve).run w' := by
  induction p generalizing w with
  | done b =>
    obtain ⟨rfl, rfl⟩ := Prod.mk.inj first
    rfl
  | ask r next ih => exact ih ((serve r).run w).1 first

/-- What every answer keeps is kept by all of them. -/
theorem served_preserves (Inv : σ → Prop)
    (kept : ∀ (r : I.Request) (w : σ), Inv w → Inv ((serve r).run w).2) {w w' : σ}
    {t : List (Exchange I)} (served : Served serve w t w') (start : Inv w) : Inv w' := by
  induction served with
  | rest => exact start
  | @answered w _ _ r _ _ given _ ih =>
    refine ih ?_
    have first := kept r w start
    rwa [given] at first

end Testbed.Program
