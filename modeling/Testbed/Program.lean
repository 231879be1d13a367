/-!
# Programs of typed requests

What the library does to the outside world (running a command, asking a guest for its state,
sleeping, logging) is a value: a `Program` either has its result or makes a request and goes on
with the answer. An `Interface` lists the requests that a program may make and the type of the
answer to each. Nothing is decided about the answers, so whatever is proved of a program holds of
every behaviour of the world.

`Program.interpret` serves a program's requests in any monad; `Program.Runs` relates a program to
the exchanges that it can have with the world. Main statement: `runs_bind`, the runs of two
programs in a row are the runs of the first followed by the runs of the second.
-/
namespace Testbed

/-- The requests that a program may make, and the type of the answer to each. -/
structure Interface where
  Request : Type
  Answer : Request → Type

/-- A computation that asks the world for what it needs. -/
inductive Program (I : Interface) (α : Type) : Type
  /-- The result. -/
  | done (value : α)
  /-- A request, and what to do with its answer. -/
  | ask (request : I.Request) (next : I.Answer request → Program I α)

namespace Program

variable {I J : Interface} {α β γ : Type}

/-- Does `p`, then what `f` makes of its result. -/
def bind (p : Program I α) (f : α → Program I β) : Program I β :=
  match p with
  | .done a => f a
  | .ask r next => .ask r fun answer => (next answer).bind f

instance : Monad (Program I) where
  pure := .done
  bind := .bind

/-- Makes one request; its answer is the result. -/
def request (r : I.Request) : Program I (I.Answer r) := .ask r .done

/-- Serves every request of a program by `serve`. -/
def interpret {m : Type → Type} [Monad m] (serve : (r : I.Request) → m (I.Answer r)) :
    Program I α → m α
  | .done a => pure a
  | .ask r next => serve r >>= fun answer => (next answer).interpret serve

@[simp] theorem pure_eq_done (a : α) : (pure a : Program I α) = .done a := rfl

@[simp] theorem done_bind (a : α) (f : α → Program I β) : (.done a : Program I α) >>= f = f a := rfl

@[simp] theorem ask_bind (r : I.Request) (next : I.Answer r → Program I α)
    (f : α → Program I β) :
    (.ask r next : Program I α) >>= f = .ask r fun answer => next answer >>= f := rfl

theorem bind_done (p : Program I α) : p >>= .done = p := by
  induction p with
  | done a => rfl
  | ask r next ih => simp only [ask_bind, ih]

theorem bind_assoc (p : Program I α) (f : α → Program I β) (g : β → Program I γ) :
    p >>= f >>= g = p >>= fun a => f a >>= g := by
  induction p with
  | done a => rfl
  | ask r next ih => simp only [ask_bind, ih]

instance : LawfulMonad (Program I) :=
  LawfulMonad.mk' (Program I) bind_done (fun _ _ => rfl) bind_assoc

/-! ## What a program can have said to the world -/

/-- A request and its answer. -/
structure Exchange (I : Interface) where
  request : I.Request
  answer : I.Answer request

/-- `p.Runs exchanges a`: with these answers the program makes these requests and ends in `a`. -/
inductive Runs : Program I α → List (Exchange I) → α → Prop
  | done (a : α) : Runs (.done a) [] a
  | ask {r : I.Request} {next : I.Answer r → Program I α} {answer : I.Answer r}
      {rest : List (Exchange I)} {a : α} :
      Runs (next answer) rest a → Runs (.ask r next) (⟨r, answer⟩ :: rest) a

theorem runs_done_iff {a b : α} {t : List (Exchange I)} :
    Runs (.done a) t b ↔ t = [] ∧ b = a :=
  ⟨fun h => by cases h; exact ⟨rfl, rfl⟩, fun ⟨ht, hb⟩ => ht ▸ hb ▸ .done b⟩

theorem runs_ask_iff {r : I.Request} {next : I.Answer r → Program I α} {t : List (Exchange I)}
    {a : α} :
    Runs (.ask r next) t a ↔ ∃ answer rest, t = ⟨r, answer⟩ :: rest ∧ Runs (next answer) rest a :=
  ⟨fun h => by cases h with | ask h => exact ⟨_, _, rfl, h⟩,
   fun ⟨_, _, ht, h⟩ => ht ▸ .ask h⟩

/-- **Two programs in a row.** The exchanges are those of the first, then those of the second. -/
theorem runs_bind {p : Program I α} {f : α → Program I β} {t : List (Exchange I)} {b : β} :
    Runs (p >>= f) t b ↔ ∃ t₁ t₂ a, t = t₁ ++ t₂ ∧ Runs p t₁ a ∧ Runs (f a) t₂ b := by
  induction p generalizing t with
  | done a =>
    constructor
    · exact fun h => ⟨[], t, a, rfl, .done a, h⟩
    · rintro ⟨t₁, t₂, a', rfl, h₁, h₂⟩
      obtain ⟨rfl, rfl⟩ := runs_done_iff.1 h₁
      exact h₂
  | ask r next ih =>
    simp only [ask_bind, runs_ask_iff]
    constructor
    · rintro ⟨answer, rest, rfl, h⟩
      obtain ⟨t₁, t₂, a, rfl, h₁, h₂⟩ := (ih answer).1 h
      exact ⟨_ :: t₁, t₂, a, rfl, ⟨answer, t₁, rfl, h₁⟩, h₂⟩
    · rintro ⟨t₁, t₂, a, rfl, ⟨answer, rest, rfl, h₁⟩, h₂⟩
      exact ⟨answer, rest ++ t₂, rfl, (ih answer).2 ⟨rest, t₂, a, rfl, h₁, h₂⟩⟩

end Program

/-- Programs over `I` are programs over `J`: every request of `I` is served by `J`. -/
class Interface.Embeds (I J : Interface) where
  serve : (r : I.Request) → Program J (I.Answer r)

/-- A program over `I` as one over `J`. -/
def Program.embed {I J : Interface} [Interface.Embeds I J] {α : Type} (p : Program I α) :
    Program J α :=
  p.interpret Interface.Embeds.serve

end Testbed
