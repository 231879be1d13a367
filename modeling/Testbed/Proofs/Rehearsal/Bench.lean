import Testbed.Proofs.Console.Dealings
import Testbed.Proofs.Rehearsal.Kernel
import Testbed.Rehearsal.Machine
/-!
# Processes on a machine

A machine does to a child what it is asked to, and what is remembered of a child is right: one that
was seen to have exited has ended. So the operations on a process mean what they say, whatever the
programs on the machine do in the meantime, and a process that is stopped has ended.

Main statements: `says_of_served`, the answers to any program; `ended_of_stop`, the end of a
process.
-/
namespace Testbed.Rehearsal

open Program Machine

variable {α β : Type}

namespace Machine

variable {m m' : Machine} {handle : Nat}

theorem hasEnded_of_later (later : Kernel.Later m.kernel m'.kernel)
    (there : handle < m.kernel.processes.size) (ended : m.hasEnded handle) :
    m'.hasEnded handle := by
  obtain ⟨status, was⟩ := Option.isSome_iff_exists.1 ended
  unfold hasEnded
  rw [later.ended handle there status was]
  rfl

theorem later_pass (orderly : m.kernel.Orderly) (d : Duration) :
    Kernel.Later m.kernel (m.pass d).kernel := by
  have ran := Kernel.later_run isProgram (some (m.kernel.clock + d.nanos)) (fun _ => false) patience
    orderly
  exact ran.trans (Kernel.later_of_processes (Nat.le_max_left ..) rfl rfl)

theorem later_passUntil (orderly : m.kernel.Orderly) (enough : Kernel → Bool) :
    Kernel.Later m.kernel (m.passUntil enough).kernel :=
  Kernel.later_run isProgram none enough patience orderly

theorem orderly_ofFiles (files : Files) : (ofFiles files).kernel.Orderly where
  pid i only := by
    obtain rfl : i = 0 := Nat.lt_one_iff.1 only
    rfl
  living i := by
    constructor
    · exact nofun
    · rintro ⟨other, only, -⟩
      exact absurd (Nat.lt_one_iff.1 only) other
  reaped i only told := by
    obtain rfl : i = 0 := Nat.lt_one_iff.1 only
    cases told

/-- A program that is started is a new process. -/
theorem later_start {argv : List String} {streams : List Stream} {ownSession : Bool}
    (user : 0 < m.kernel.processes.size)
    (started : m.start argv streams ownSession = .ok (m', handle)) :
    Kernel.Later m.kernel m'.kernel ∧ handle < m'.kernel.processes.size := by
  simp only [start] at started
  split at started
  · cases started
  · obtain ⟨rfl, rfl⟩ := Prod.mk.inj (Except.ok.inj started)
    have opened (k : Kernel) : Kernel.Later k
        (streams.foldl (fun k s => (k.openStream m.kernel.processes.size s).1) k) :=
      Kernel.later_foldl (fun k s => Kernel.later_openStream k _ s) streams k
    refine ⟨Kernel.Later.trans (Kernel.later_push user ?_ ?_ ?_) (opened _),
      Nat.lt_of_lt_of_le ?_ (opened _).size⟩
    · rfl
    · rfl
    · exact fun _ => rfl
    · simp

end Machine

/-! ## What is done to a child -/

/-- What is remembered of the child for a process is right. -/
structure Minds (p : Process) (c : Child) (m : Machine) : Prop where
  process : c.process = p
  started : p.handle < m.kernel.processes.size
  orderly : m.kernel.Orderly
  seen : c.exited → m.hasEnded p.handle

theorem Minds.later {p : Process} {c : Child} {m m' : Machine} (minds : Minds p c m)
    (later : Kernel.Later m.kernel m'.kernel) : Minds p c m' where
  process := minds.process
  started := Nat.lt_of_lt_of_le minds.started later.size
  orderly := later.orderly minds.orderly
  seen exited := hasEnded_of_later later minds.started (minds.seen exited)

/-- What is done to a child on a machine succeeds, and something holds then. -/
def Does (p : Process) (pre : Machine → Prop) (act : Child.Action α) (post : α → Machine → Prop) :
    Prop :=
  ∀ (c : Child) (m : Machine), Minds p c m → pre m →
    ∃ a c' m', ((act c).run.interpret answerChild).run m = (.ok (a, c'), m') ∧ Minds p c' m' ∧
      Kernel.Later m.kernel m'.kernel ∧ post a m'

theorem does_pure {p : Process} {pre : Machine → Prop} {post : α → Machine → Prop} (a : α)
    (so : ∀ m, pre m → post a m) : Does p pre (pure a) post :=
  fun c m minds before => ⟨a, c, m, rfl, minds, .refl _, so m before⟩

theorem does_bind {p : Process} {pre : Machine → Prop} {x : Child.Action α}
    {f : α → Child.Action β} {mid : α → Machine → Prop} {post : β → Machine → Prop}
    (first : Does p pre x mid) (rest : ∀ a, Does p (mid a) (f a) post) :
    Does p pre (x >>= f) post := by
  intro c m minds before
  obtain ⟨a, c₁, m₁, did, minds₁, later, between⟩ := first c m minds before
  obtain ⟨b, c₂, m₂, then_, minds₂, more, after⟩ := rest a c₁ m₁ minds₁ between
  exact ⟨b, c₂, m₂, (interpret_bind_of did).trans then_, minds₂, later.trans more, after⟩

theorem does_hasExited (p : Process) (pre : Machine → Prop) :
    Does p pre Child.hasExited fun gone m => gone = m.hasEnded p.handle := by
  intro c m minds _
  by_cases exited : c.exited
  · have did : ((Child.hasExited c).run.interpret answerChild).run m = (.ok (true, c), m) := by
      change (Program.interpret (m := StateM Machine) answerChild
        ((if c.exited then _ else _ : Child.Action Bool) c).run).run m = _
      rw [if_pos exited]
      rfl
    exact ⟨true, c, m, did, minds, .refl _, (minds.seen exited).symm⟩
  · have did : ((Child.hasExited c).run.interpret answerChild).run m =
        (.ok (m.hasEnded c.process.handle,
          { c with exited := m.hasEnded c.process.handle }), m) := by
      change (Program.interpret (m := StateM Machine) answerChild
        ((if c.exited then _ else _ : Child.Action Bool) c).run).run m = _
      rw [if_neg exited]
      rfl
    rw [minds.process] at did
    exact ⟨_, _, m, did, ⟨rfl, minds.started, minds.orderly, id⟩, .refl _, rfl⟩

theorem does_terminate (p : Process) (pre : Machine → Prop) :
    Does p pre Child.terminate fun _ _ => True := by
  refine does_bind (does_hasExited p pre) fun gone => ?_
  cases gone with
  | true => exact does_pure () fun _ _ => trivial
  | false =>
    intro c m minds _
    have later : Kernel.Later m.kernel (m.deliver c.process.handle 15).kernel :=
      Kernel.later_deliver ..
    exact ⟨(), c, _, rfl, minds.later later, later, trivial⟩

theorem does_kill (p : Process) (pre : Machine → Prop) :
    Does p pre Child.kill fun _ m => m.hasEnded p.handle := by
  refine does_bind (does_hasExited p pre) fun gone => ?_
  cases gone with
  | true => exact does_pure () fun _ ended => ended.symm
  | false =>
    intro c m minds _
    obtain rfl := minds.process
    have killed : Kernel.Later m.kernel (m.deliver c.process.handle 9).kernel :=
      Kernel.later_deliver ..
    have minds₁ := minds.later killed
    have later : Kernel.Later (m.deliver c.process.handle 9).kernel
        ((m.deliver c.process.handle 9).passUntilEnd c.process.handle).kernel :=
      later_passUntil minds₁.orderly _
    have ended : ((m.deliver c.process.handle 9).passUntilEnd c.process.handle).hasEnded
        c.process.handle :=
      hasEnded_of_later later minds₁.started
        (Option.isSome_iff_ne_none.2 (Kernel.ended_deliver_kill minds.started))
    exact ⟨(), { c with exited := true }, _, rfl,
      { minds₁.later later with seen := fun _ => ended }, killed.trans later, ended⟩

theorem does_sleep (p : Process) (pre : Machine → Prop) (d : Duration) :
    Does p pre (StateT.lift (ExceptT.lift (Child.ask (.sleep d)))) fun _ _ => True := by
  intro c m minds _
  have later := later_pass minds.orderly d
  exact ⟨(), c, m.pass d, rfl, minds.later later, later, trivial⟩

theorem does_waitWithin (p : Process) (budget : Duration) (pre : Machine → Prop) :
    Does p pre (Child.waitWithin budget) fun gone m => gone = m.hasEnded p.handle := by
  induction budget using Child.waitWithin.induct generalizing pre with
  | case1 budget ih =>
    rw [Child.waitWithin]
    refine does_bind (does_hasExited p pre) fun gone => ?_
    cases gone with
    | true => exact does_pure true fun _ ended => ended
    | false =>
      simp only [Bool.false_eq_true, if_false]
      split
      · exact does_pure false fun _ going => going
      · rename_i more
        exact does_bind (does_sleep p _ _) fun _ => ih more _

/-! ## The children of a bench -/

namespace Bench

variable {b b' : Bench} {p : Process}

/-- What is remembered of the children on a bench is right. -/
structure Sound (b : Bench) : Prop where
  orderly : b.machine.kernel.Orderly
  minds : ∀ c ∈ b.children, Minds c.process c b.machine

/-- A bench on which nothing has been started yet. -/
theorem sound_ofFiles (files : Files) : ({ machine := .ofFiles files } : Bench).Sound :=
  ⟨orderly_ofFiles files, by simp⟩

theorem sound_start {argv : List String} (sound : b.Sound)
    (user : 0 < b.machine.kernel.processes.size) (did : (start argv).run b = (.ok p, b')) :
    b'.Sound ∧ p.handle < b'.machine.kernel.processes.size := by
  simp only [start, StateT.run] at did
  split at did
  · rename_i machine handle started
    obtain ⟨same, rfl⟩ := Prod.mk.inj did
    obtain rfl := Except.ok.inj same
    obtain ⟨later, there⟩ := later_start user started
    exact ⟨⟨later.orderly sound.orderly, fun c hc => (sound.minds c hc).later later⟩, there⟩
  · cases (Prod.mk.inj did).1

theorem minds_child (sound : b.Sound) (started : p.handle < b.machine.kernel.processes.size) :
    Minds p ((b.children.find? (·.process = p)).getD { process := p }) b.machine := by
  rcases found : b.children.find? (·.process = p) with _ | c <;> rw [found]
  · exact ⟨rfl, started, sound.orderly, nofun⟩
  · have own : c.process = p := by simpa using List.find?_some found
    have minds := sound.minds c (List.mem_of_find?_eq_some found)
    rw [own] at minds
    exact minds

theorem run_onChild {act : Child.Action α} {outcome : Except IoError α} {children : List Child}
    {m : Machine}
    (did : ((Child.on p act b.children).interpret answerChild).run b.machine =
      ((outcome, children), m)) :
    (onChild p act).run b = (outcome, { b with machine := m, children }) := by
  have whole : (onChild p act).run b =
      (fun r : (Except IoError α × List Child) × Machine =>
        (r.1.1, { b with machine := r.2, children := r.1.2 }))
        (((Child.on p act b.children).interpret answerChild).run b.machine) := rfl
  rw [whole, did]

/-- Something is done to a child, and nothing to the others. -/
theorem answered_onChild {act : Child.Action α} {post : α → Machine → Prop} (sound : b.Sound)
    (started : p.handle < b.machine.kernel.processes.size)
    (does : Does p (fun _ => True) act post) :
    ∃ a b', (onChild p act).run b = (.ok a, b') ∧ b'.Sound ∧
      Kernel.Later b.machine.kernel b'.machine.kernel ∧ post a b'.machine := by
  obtain ⟨a, c', m', did, minds, later, after⟩ := does _ _ (minds_child sound started) trivial
  have all : (onChild p act).run b =
      (.ok a, { b with
        machine := m', children := c' :: b.children.filter (·.process ≠ p) }) :=
    run_onChild (interpret_bind_of did)
  refine ⟨a, _, all, ⟨minds.orderly, fun c hc => ?_⟩, later, after⟩
  rcases List.mem_cons.1 hc with rfl | hc
  · rw [minds.process]
    exact minds
  · exact (sound.minds c (List.mem_filter.1 hc).1).later later

def about : Process.Request → Option Process
  | .hasExited p => some p
  | .terminate p => some p
  | .kill p => some p
  | .waitExit p _ => some p
  | .log _ => none

/-- What an answer says of the machine that it leaves. -/
def Says (m : Machine) : Exchange Process.interface → Prop
  | ⟨.hasExited p, a⟩ => a = .ok (m.hasEnded p.handle)
  | ⟨.terminate _, a⟩ => a = .ok ()
  | ⟨.kill p, a⟩ => a = .ok () ∧ m.hasEnded p.handle
  | ⟨.waitExit p _, a⟩ => a = .ok (m.hasEnded p.handle)
  | ⟨.log _, _⟩ => True

theorem says_of_answer {r : Process.Request} {a : Process.Answer r} (sound : b.Sound)
    (started : ∀ p ∈ about r, p.handle < b.machine.kernel.processes.size)
    (given : (answer r).run b = (a, b')) :
    b'.Sound ∧ Kernel.Later b.machine.kernel b'.machine.kernel ∧ Says b'.machine ⟨r, a⟩ := by
  cases r with
  | hasExited p =>
    obtain ⟨gone, b₁, did, sound₁, later, rfl⟩ :=
      answered_onChild sound (started p rfl) (does_hasExited p _)
    obtain ⟨rfl, rfl⟩ := Prod.mk.inj (did.symm.trans given)
    exact ⟨sound₁, later, rfl⟩
  | terminate p =>
    obtain ⟨_, b₁, did, sound₁, later, -⟩ :=
      answered_onChild sound (started p rfl) (does_terminate p _)
    obtain ⟨rfl, rfl⟩ := Prod.mk.inj (did.symm.trans given)
    exact ⟨sound₁, later, rfl⟩
  | kill p =>
    obtain ⟨_, b₁, did, sound₁, later, ended⟩ :=
      answered_onChild sound (started p rfl) (does_kill p _)
    obtain ⟨rfl, rfl⟩ := Prod.mk.inj (did.symm.trans given)
    exact ⟨sound₁, later, rfl, ended⟩
  | waitExit p d =>
    obtain ⟨gone, b₁, did, sound₁, later, rfl⟩ :=
      answered_onChild sound (started p rfl) (does_waitWithin p d _)
    obtain ⟨rfl, rfl⟩ := Prod.mk.inj (did.symm.trans given)
    exact ⟨sound₁, later, rfl⟩
  | log entry =>
    obtain ⟨rfl, rfl⟩ := Prod.mk.inj given
    exact ⟨⟨sound.orderly, sound.minds⟩, .refl _, trivial⟩

/-- **The answers to a program.** Each of them was right when it was given, and who had ended by
then has ended. -/
theorem says_of_served {t : List (Exchange Process.interface)} (sound : b.Sound)
    (started : ∀ e ∈ t, ∀ p ∈ about e.request, p.handle < b.machine.kernel.processes.size)
    (served : Served (I := Process.interface) answer b t b') :
    b'.Sound ∧ Kernel.Later b.machine.kernel b'.machine.kernel ∧
      ∀ e ∈ t, ∃ m : Machine, Says m e ∧ Kernel.Later m.kernel b'.machine.kernel := by
  induction served with
  | rest b => exact ⟨sound, .refl _, by simp⟩
  | answered given _ ih =>
    obtain ⟨sound₁, later, said⟩ := says_of_answer sound (started _ List.mem_cons_self) given
    obtain ⟨sound₂, more, rest⟩ := ih sound₁ fun e he p hp =>
      Nat.lt_of_lt_of_le (started e (List.mem_cons_of_mem _ he) p hp) later.size
    refine ⟨sound₂, later.trans more, fun e he => ?_⟩
    rcases List.mem_cons.1 he with rfl | he
    · exact ⟨_, said, more⟩
    · exact rest e he

/-- **A process that is stopped has ended.** -/
theorem ended_of_stop (sound : b.Sound) (started : p.handle < b.machine.kernel.processes.size)
    (grace : Duration) :
    ∃ b', (stop p grace).run b = (.ok (), b') ∧ b'.Sound ∧ b'.machine.hasEnded p.handle ∧
      Kernel.Later b.machine.kernel b'.machine.kernel := by
  obtain ⟨_, b₁, asked, sound₁, later₁, -⟩ := answered_onChild sound started (does_terminate p _)
  have started₁ := Nat.lt_of_lt_of_le started later₁.size
  obtain ⟨gone, b₂, waited, sound₂, later₂, hgone⟩ :=
    answered_onChild sound₁ started₁ (does_waitWithin p grace _)
  -- what is left of it once the exit was awaited
  let rest (gone : Bool) : Process.Action Unit := do
    unless gone do
      let text := s!"process {Text.decimal p.pid} still alive after {grace.text}, killing"
      ExceptT.lift (Program.request (I := Process.interface) (.log ⟨.debug, .process, text⟩))
      p.kill
  have asks : (p.terminate.run.interpret answer).run b = (.ok (), b₁) := asked
  have waits : ((p.waitExit grace).run.interpret answer).run b₁ = (.ok gone, b₂) := waited
  have all : (stop p grace).run b = ((rest gone).run.interpret answer).run b₂ :=
    (interpret_bind_of asks).trans (interpret_bind_of waits)
  rw [all]
  cases gone with
  | true => exact ⟨b₂, rfl, sound₂, hgone.symm, later₁.trans later₂⟩
  | false =>
    let b₃ : Bench := { b₂ with entries := ⟨.debug, .process,
      s!"process {Text.decimal p.pid} still alive after {grace.text}, killing"⟩ :: b₂.entries }
    have sound₃ : b₃.Sound := ⟨sound₂.orderly, sound₂.minds⟩
    obtain ⟨_, b₄, killed, sound₄, later₃, ended⟩ :=
      answered_onChild sound₃ (Nat.lt_of_lt_of_le started₁ later₂.size) (does_kill p _)
    exact ⟨b₄, killed, sound₄, ended, (later₁.trans later₂).trans later₃⟩

end Bench

end Testbed.Rehearsal
