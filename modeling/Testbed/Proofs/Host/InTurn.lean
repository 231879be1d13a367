import Testbed.Proofs.Host.Queries
/-!
# Commands in turn

Commands of a plan are run on a host one after another, and the plan is given up at the first that
fails (`UpToFailure`): what is run is a beginning of the plan, all of it but the last has succeeded,
and the last gives the result if it has not.

Main statement: `executes_inTurn`, any list of commands is run like this.
-/
namespace Testbed

open Transport

open Program hiding bind_assoc

namespace Host

variable {h : Host} {r : List Executed} {res : Except Fault Unit}

/-! ## Steps -/

/-- A command that was run, its processes, and its text or what went wrong. -/
structure Step where
  command : Command
  processes : List Executed
  res : Except Fault String

def Step.On (h : Host) (step : Step) : Prop := h.Yields step.command step.processes step.res

def Step.Succeeded (step : Step) : Prop := ∃ text, step.res = .ok text

/-- On a host whose banner stays a step is one process, and succeeds if that ends in zero. -/
theorem Step.alone_of_plain {step : Step} (made : step.On h)
    (plain : h.transport.settings.stripBanner = false) :
    ∃ a, step.processes = [(h.process step.command.toShell, a)] ∧
      (step.Succeeded ↔ ∃ out, a = .ok out ∧ out.code = 0) := by
  obtain ⟨shown, banner, a, verdict, decides, agrees, ended⟩ := made
  obtain ⟨alone, rfl, rfl⟩ := (decides_plain_iff plain).1 decides
  refine ⟨a, alone, ?_⟩
  rw [Step.Succeeded, ended]
  constructor
  · rintro ⟨text, ok⟩
    rcases verdict with failure | result
    · cases ok
    · obtain ⟨out, bytes, rfl, -, zero, -⟩ := (agrees.ok result).1 rfl
      exact ⟨out, rfl, zero rfl⟩
  · rintro ⟨out, rfl, zero⟩
    obtain rfl := (agrees.ok ⟨some h.address, out.code, out.bytes⟩).2
      ⟨out, out.bytes, rfl, fun _ => by simp [zero], fun _ => zero, rfl, rfl⟩
    exact ⟨_, rfl⟩

/-! ## Plans -/

/-- The steps of a plan that is given up at the first command that fails, and the result. -/
structure UpToFailure (plan : List Command) (steps : List Step) (res : Except Fault Unit) :
    Prop where
  inOrder : steps.map Step.command <+: plan
  earlier : ∀ step ∈ steps.dropLast, step.Succeeded
  ok_iff : res = .ok () ↔ steps.map Step.command = plan ∧ ∀ step ∈ steps, step.Succeeded
  error_iff : ∀ fault,
    res = .error fault ↔ ∃ last, steps.getLast? = some last ∧ last.res = .error fault

theorem upToFailure_nil_iff {steps : List Step} :
    UpToFailure [] steps res ↔ steps = [] ∧ res = .ok () := by
  constructor
  · intro all
    obtain rfl : steps = [] := by simpa using all.inOrder
    exact ⟨rfl, all.ok_iff.2 ⟨rfl, nofun⟩⟩
  · rintro ⟨rfl, rfl⟩
    exact ⟨List.prefix_rfl, nofun, by simp, by simp⟩

theorem upToFailure_of_failed {command : Command} {plan : List Command} {processes : List Executed}
    {fault : Fault} :
    UpToFailure (command :: plan) [⟨command, processes, .error fault⟩] (.error fault) := by
  refine ⟨by simp, nofun, ?_, by simp⟩
  constructor
  · rintro ⟨⟩
  · rintro ⟨-, all⟩
    obtain ⟨_, never⟩ := all _ (List.mem_singleton_self _)
    cases never

/-- A command that succeeds leaves the rest of the plan to do. -/
theorem upToFailure_after_success {command : Command} {plan : List Command}
    {processes : List Executed} {text : String} {rest : List Step} :
    UpToFailure (command :: plan) (⟨command, processes, .ok text⟩ :: rest) res ↔
      UpToFailure plan rest res := by
  let first : Step := ⟨command, processes, .ok text⟩
  have before : (∀ step ∈ (first :: rest).dropLast, step.Succeeded) ↔
      ∀ step ∈ rest.dropLast, step.Succeeded := by
    cases rest <;> simp [first, Step.Succeeded]
  have whole : ((first :: rest).map Step.command = command :: plan ∧
      ∀ step ∈ first :: rest, step.Succeeded) ↔
        rest.map Step.command = plan ∧ ∀ step ∈ rest, step.Succeeded := by
    simp [first, Step.Succeeded]
  have last (fault : Fault) :
      (∃ last, (first :: rest).getLast? = some last ∧ last.res = .error fault) ↔
        ∃ last, rest.getLast? = some last ∧ last.res = .error fault := by
    cases rest <;> simp [first]
  constructor
  · rintro ⟨inOrder, earlier, ok_iff, error_iff⟩
    exact ⟨(List.cons_prefix_cons.1 inOrder).2, before.1 earlier, ok_iff.trans whole,
      fun fault => (error_iff fault).trans (last fault)⟩
  · rintro ⟨inOrder, earlier, ok_iff, error_iff⟩
    exact ⟨List.cons_prefix_cons.2 ⟨rfl, inOrder⟩, before.2 earlier, ok_iff.trans whole.symm,
      fun fault => (error_iff fault).trans (last fault).symm⟩

theorem upToFailure_cons_iff {command : Command} {plan : List Command} {steps : List Step} :
    UpToFailure (command :: plan) steps res ↔
      (∃ processes fault, steps = [⟨command, processes, .error fault⟩] ∧ res = .error fault) ∨
        ∃ processes text rest, steps = ⟨command, processes, .ok text⟩ :: rest ∧
          UpToFailure plan rest res := by
  constructor
  · intro all
    rcases steps with _ | ⟨⟨first, processes, fault | text⟩, rest⟩
    · -- if nothing was run the result is neither of the two
      rcases res with fault | _
      · obtain ⟨_, never, -⟩ := (all.error_iff fault).1 rfl
        cases never
      · obtain ⟨never, -⟩ := all.ok_iff.1 rfl
        cases never
    · obtain ⟨rfl, -⟩ := List.cons_prefix_cons.1 all.inOrder
      rcases rest with _ | ⟨next, rest⟩
      · exact .inl ⟨processes, fault, rfl, (all.error_iff fault).2 ⟨_, rfl, rfl⟩⟩
      · obtain ⟨_, never⟩ := all.earlier _ (List.mem_cons_self ..)
        cases never
    · obtain ⟨rfl, -⟩ := List.cons_prefix_cons.1 all.inOrder
      exact .inr ⟨processes, text, rest, rfl, upToFailure_after_success.1 all⟩
  · rintro (⟨processes, fault, rfl, rfl⟩ | ⟨processes, text, rest, rfl, all⟩)
    · exact upToFailure_of_failed
    · exact upToFailure_after_success.2 all

/-- The last command of a plan is run once all before it have succeeded. -/
theorem UpToFailure.commands_eq_or {front : List Command} {last : Command} {steps : List Step}
    (all : UpToFailure (front ++ [last]) steps res) :
    (steps.map Step.command = front ++ [last] ∧
      ∃ done, done <+: steps ∧ (∀ step ∈ done, step.Succeeded) ∧ done.map Step.command = front) ∨
    (steps.map Step.command <+: front ∧
      ¬ ∃ done, done <+: steps ∧ (∀ step ∈ done, step.Succeeded) ∧
        done.map Step.command = front) := by
  rcases List.prefix_concat_iff.1 all.inOrder with complete | short
  · refine .inl ⟨complete, steps.dropLast, List.dropLast_prefix _, all.earlier, ?_⟩
    rw [List.map_dropLast, complete, List.dropLast_concat]
  · refine .inr ⟨short, ?_⟩
    rintro ⟨done, begun, succeeded, commands⟩
    -- as many steps were made as have succeeded, and yet the plan was given up
    obtain rfl : done = steps := by
      refine begun.eq_of_length (Nat.le_antisymm begun.length_le ?_)
      have length := short.length_le
      rwa [← commands, List.length_map, List.length_map] at length
    rcases res with fault | _
    · obtain ⟨step, final, failed⟩ := (all.error_iff fault).1 rfl
      obtain ⟨_, ok⟩ := succeeded step (List.mem_of_getLast? final)
      rw [failed] at ok
      cases ok
    · obtain ⟨complete, -⟩ := all.ok_iff.1 rfl
      simp [commands] at complete

/-- The processes of a plan that is given up at the first command that fails, and the result. -/
def Performs (h : Host) (plan : List Command) (r : List Executed) (res : Except Fault Unit) :
    Prop :=
  ∃ steps, r = (steps.map Step.processes).flatten ∧ (∀ step ∈ steps, step.On h) ∧
    UpToFailure plan steps res

theorem performs_cons_iff {command : Command} {plan : List Command} :
    h.Performs (command :: plan) r res ↔
      (∃ fault, res = .error fault ∧ h.Yields command r (.error fault)) ∨
        ∃ r₁ r₂ text, r = r₁ ++ r₂ ∧ h.Yields command r₁ (.ok text) ∧ h.Performs plan r₂ res := by
  constructor
  · rintro ⟨steps, rfl, made, all⟩
    rcases upToFailure_cons_iff.1 all with
      ⟨processes, fault, rfl, rfl⟩ | ⟨processes, text, rest, rfl, later⟩
    · rw [List.map_singleton, List.flatten_singleton]
      exact .inl ⟨fault, rfl, made _ (List.mem_singleton_self _)⟩
    · obtain ⟨yields, made⟩ := List.forall_mem_cons.1 made
      exact .inr ⟨processes, _, text, rfl, yields, rest, rfl, made, later⟩
  · rintro (⟨fault, rfl, yields⟩ | ⟨r₁, _, text, rfl, yields, rest, rfl, made, later⟩)
    · exact ⟨[⟨command, r, .error fault⟩], (List.flatten_singleton ..).symm,
        List.forall_mem_singleton.2 yields, upToFailure_of_failed⟩
    · exact ⟨⟨command, r₁, .ok text⟩ :: rest, rfl, List.forall_mem_cons.2 ⟨yields, made⟩,
        upToFailure_after_success.2 later⟩

/-! ## What is run -/

def inTurn (h : Host) : List Command → Operation Unit
  | [] => pure ()
  | command :: rest => do
    let _ ← h.ssh command
    inTurn h rest

theorem inTurn_append (before after : List Command) :
    inTurn h (before ++ after) = inTurn h before >>= fun _ => inTurn h after := by
  induction before with
  | nil => exact (pure_bind ..).symm
  | cons command before ih =>
    rw [List.cons_append, inTurn, inTurn, bind_assoc, ih]

/-- **Commands in turn.** They are run up to the first that fails. -/
theorem executes_inTurn {plan : List Command} :
    Executes (inTurn h plan).run r res ↔ h.Performs plan r res := by
  induction plan generalizing r with
  | nil =>
    refine executes_done.trans ⟨?_, ?_⟩
    · rintro ⟨rfl, rfl⟩
      exact ⟨[], rfl, nofun, upToFailure_nil_iff.2 ⟨rfl, rfl⟩⟩
    · rintro ⟨steps, rfl, -, all⟩
      obtain ⟨rfl, rfl⟩ := upToFailure_nil_iff.1 all
      exact ⟨rfl, rfl⟩
  | cons command plan ih =>
    rw [inTurn, executes_try_bind, performs_cons_iff]
    simp only [executes_ssh, ih]

theorem waited_inTurn {plan : List Command} :
    (inTurn h plan).run.AsksOnly (I := Transport.interface) Waited := by
  induction plan with
  | nil => trivial
  | cons command plan ih => exact asksOnly_try_bind waited_ssh fun _ => ih

end Host

end Testbed
