import Testbed.Proofs.Host.InTurn
import Testbed.Storage
/-!
# Plugs come before their repository

What is done with the plugs of a repository is a plan that is made once they are listed: a command
for each of them in the order of the list, and at the end the one for the repository itself, if
there is one.

Main statement: `plugs_before_repository`, the plan is carried out up to the first command that
fails, and the repository is not touched unless all plugs were pulled.
-/
namespace Testbed

open Transport

open Program hiding bind_assoc

namespace Storage

open Host

variable {s : Storage} {r : List Executed} {res : Except Fault Unit}

/-! ## The plans for a repository -/

/-- What is done with the plugs of a repository, and with itself then. -/
inductive Chore
  | plug
  | unplug
  | forget
  | destroy

namespace Chore

def perform (s : Storage) : Chore → Operation Unit
  | .plug => s.plug
  | .unplug => s.unplug
  | .forget => s.forget
  | .destroy => s.destroy

def onPlug : Chore → String
  | .plug => "pbd-plug"
  | .unplug | .forget | .destroy => "pbd-unplug"

def atEnd : Chore → Option String
  | .plug | .unplug => none
  | .forget => some "sr-forget"
  | .destroy => some "sr-destroy"

end Chore

def list (s : Storage) : Command := Xe.command "pbd-list" [("sr-uuid", s.uuid)] true

def act (action uuid : String) : Command := Xe.command action [("uuid", uuid)] false

/-- The commands of a chore once the plugs were listed. -/
def Chore.commands (c : Chore) (s : Storage) (listed : String) : List Command :=
  (Xe.listing listed).map (act c.onPlug) ++ (c.atEnd.map (act · s.uuid)).toList

/-- The commands of a chore, by what came of the first of them. -/
def Chore.plan (c : Chore) (s : Storage) (listed : Except Fault String) : List Command :=
  s.list :: match listed with
    | .ok text => c.commands s text
    | .error _ => []

/-! ## What is run -/

theorem forEach_eq (h : Host) (action : String) (uuids : List String) :
    forEach h action uuids = inTurn h (uuids.map (act action)) := by
  induction uuids with
  | nil => rfl
  | cons uuid uuids ih => exact congrArg (h.ssh (act action uuid) >>= ·) (funext fun _ => ih)

def Chore.opening (s : Storage) : Chore → Operation Unit
  | .plug | .unplug => pure ()
  | .forget => .log .info .storage s!"Forget sr {s.uuid}"
  | .destroy => .log .info .storage s!"Destroy sr {s.uuid}"

theorem Chore.perform_eq (c : Chore) :
    c.perform s = c.opening s >>= fun _ =>
      s.owner.ssh s.list >>= fun text => inTurn s.owner (c.commands s text) := by
  have listed (action : String) :
      (s.plugUuids >>= fun uuids => forEach s.owner action uuids) =
        s.owner.ssh s.list >>= fun text =>
          inTurn s.owner ((Xe.listing text).map (act action)) := by
    rw [plugUuids, Host.xeList, bind_map_left]
    exact congrArg _ (funext fun text => forEach_eq ..)
  -- the command at the end is one more to run in turn
  have ended (action : String) :
      (s.unplug >>= fun _ => s.owner.xe action [("uuid", s.uuid)] >>= fun _ => pure ()) =
        s.owner.ssh s.list >>= fun text =>
          inTurn s.owner ((Xe.listing text).map (act "pbd-unplug") ++ [act action s.uuid]) := by
    have one : (s.owner.xe action [("uuid", s.uuid)] >>= fun _ => pure ()) =
        inTurn s.owner [act action s.uuid] := rfl
    rw [Storage.unplug, listed, bind_assoc, one]
    simp only [inTurn_append]
  cases c with
  | plug =>
    change (s.plugUuids >>= fun uuids => forEach s.owner "pbd-plug" uuids) = _
    simp [listed, opening, commands, onPlug, atEnd]
  | unplug =>
    change (s.plugUuids >>= fun uuids => forEach s.owner "pbd-unplug" uuids) = _
    simp [listed, opening, commands, onPlug, atEnd]
  | forget | destroy => exact congrArg (_ >>= ·) (funext fun _ => ended _)

theorem executes_opening_bind {c : Chore} {rest : Operation Unit} :
    Executes (c.opening s >>= fun _ => rest).run r res ↔ Executes rest.run r res := by
  cases c with
  | plug | unplug => rw [Chore.opening, pure_bind]
  | forget | destroy => exact executes_try_log_bind

theorem executes_perform {c : Chore} :
    Executes (c.perform s).run r res ↔
      ∃ first rest, r = ((first :: rest).map Step.processes).flatten ∧
        (∀ step ∈ first :: rest, step.On s.owner) ∧
        UpToFailure (c.plan s first.res) (first :: rest) res := by
  rw [Chore.perform_eq, executes_opening_bind, executes_try_bind]
  simp only [executes_ssh, executes_inTurn]
  constructor
  · rintro (⟨fault, rfl, yields⟩ | ⟨r₁, _, text, rfl, yields, rest, rfl, made, later⟩)
    · exact ⟨⟨s.list, r, .error fault⟩, [], (List.flatten_singleton ..).symm,
        List.forall_mem_singleton.2 yields, upToFailure_of_failed⟩
    · exact ⟨⟨s.list, r₁, .ok text⟩, rest, rfl, List.forall_mem_cons.2 ⟨yields, made⟩,
        upToFailure_after_success.2 later⟩
  · rintro ⟨first, rest, rfl, made, all⟩
    obtain ⟨yields, later_made⟩ := List.forall_mem_cons.1 made
    rcases upToFailure_cons_iff.1 all with ⟨_, fault, same, rfl⟩ | ⟨_, text, _, same, later⟩
    · obtain ⟨rfl, rfl⟩ := List.cons.inj same
      exact .inl ⟨fault, rfl, List.flatten_singleton .. ▸ yields⟩
    · obtain ⟨rfl, rfl⟩ := List.cons.inj same
      exact .inr ⟨_, _, text, rfl, yields, rest, rfl, later_made, later⟩

theorem waited_perform {c : Chore} :
    (c.perform s).run.AsksOnly (I := Transport.interface) Waited := by
  have opens : (c.opening s).run.AsksOnly (I := Transport.interface) Waited := by
    cases c with
    | plug | unplug => trivial
    | forget | destroy => exact asksOnly_lift ⟨nofun, fun _ => trivial⟩
  rw [Chore.perform_eq]
  refine asksOnly_try_bind opens fun _ => asksOnly_try_bind ?_ fun text => ?_
  · exact waited_ssh
  · generalize c.commands s text = plan
    exact waited_inTurn

/-! ## The command at the end -/

theorem action_inj {action other : String} {args args' : List Xe.Argument} {minimal minimal' : Bool}
    (same : Xe.command action args minimal = Xe.command other args' minimal') : action = other := by
  injection same with same
  exact (List.cons.inj (List.cons.inj same).2).1

/-- The command for the repository is none of those for its plugs. -/
theorem act_not_mem {c : Chore} {action : String} (ends : c.atEnd = some action) (uuid : String)
    (uuids : List String) : act action uuid ∉ s.list :: uuids.map (act c.onPlug) := by
  have other : action ≠ "pbd-list" ∧ action ≠ c.onPlug := by
    cases c <;> cases ends <;> decide
  intro mem
  rcases List.mem_cons.1 mem with same | mem
  · exact other.1 (action_inj same)
  · obtain ⟨_, -, same⟩ := List.mem_map.1 mem
    exact other.2 (action_inj same).symm

/-- **The repository comes last.** It is dealt with if its plugs were listed and all were pulled,
and then once, after everything else. -/
theorem ends_iff {c : Chore} {action : String} (ends : c.atEnd = some action) {first : Step}
    {rest : List Step} (all : UpToFailure (c.plan s first.res) (first :: rest) res) :
    (act action s.uuid ∈ (first :: rest).map Step.command ↔
      ∃ text done, first.res = .ok text ∧ done <+: first :: rest ∧
        (∀ step ∈ done, step.Succeeded) ∧
        done.map Step.command = s.list :: (Xe.listing text).map (act c.onPlug)) ∧
    (act action s.uuid ∈ (first :: rest).map Step.command →
      ((first :: rest).map Step.command).getLast? = some (act action s.uuid) ∧
      ((first :: rest).map Step.command).count (act action s.uuid) = 1) := by
  generalize steps : first :: rest = made at all
  rcases listed : first.res with fault | text
  · rw [listed] at all
    have absent : act action s.uuid ∉ made.map Step.command := fun mem =>
      act_not_mem ends s.uuid [] (all.inOrder.subset mem)
    exact ⟨iff_of_false absent nofun, fun mem => absurd mem absent⟩
  · have absent := act_not_mem (s := s) ends s.uuid (Xe.listing text)
    have plan : c.plan s first.res =
        s.list :: (Xe.listing text).map (act c.onPlug) ++ [act action s.uuid] := by
      rw [listed, Chore.plan, Chore.commands, ends]
      rfl
    rw [plan] at all
    rcases all.commands_eq_or with ⟨complete, done, pulled⟩ | ⟨short, unpulled⟩
    · rw [complete]
      refine ⟨iff_of_true (by simp) ⟨text, done, rfl, pulled⟩, fun _ => ⟨List.getLast?_concat, ?_⟩⟩
      rw [List.count_append, List.count_eq_zero.2 absent, List.count_singleton_self]
    · have missing := mt (short.subset ·) absent
      refine ⟨iff_of_false missing ?_, fun mem => absurd mem missing⟩
      rintro ⟨_, done, same, pulled⟩
      cases same
      exact unpulled ⟨done, pulled⟩

/-- **Plugs before their repository.** Any answers make one run of each chore. First the plugs are
listed; then comes a command for each of them, in the order of the list, and at the end the one for
the repository if it is to be forgotten or destroyed. The first command that fails is the last that
is run, and its fault is the result; otherwise all are run, and nothing went wrong. So the
repository is dealt with if and only if the plugs were listed and all were pulled, last and once.

If banners stay where they are a command is one process, and succeeds if that ends in zero. -/
theorem plugs_before_repository (s : Storage) (c : Chore) :
    Determined (c.perform s).run ∧
    (∀ (r : List Executed) (res : Except Fault Unit),
      (∃ t, Runs (c.perform s).run t res ∧ ran t = r) ↔
        ∃ first rest, r = ((first :: rest).map Step.processes).flatten ∧
          (∀ step ∈ first :: rest, step.On s.owner) ∧
          UpToFailure (c.plan s first.res) (first :: rest) res) ∧
    (∀ (action : String) (first : Step) (rest : List Step) (res : Except Fault Unit),
      c.atEnd = some action → UpToFailure (c.plan s first.res) (first :: rest) res →
        (act action s.uuid ∈ (first :: rest).map Step.command ↔
          ∃ text done, first.res = .ok text ∧ done <+: first :: rest ∧
            (∀ step ∈ done, step.Succeeded) ∧
            done.map Step.command = s.list :: (Xe.listing text).map (act c.onPlug)) ∧
        (act action s.uuid ∈ (first :: rest).map Step.command →
          ((first :: rest).map Step.command).getLast? = some (act action s.uuid) ∧
          ((first :: rest).map Step.command).count (act action s.uuid) = 1)) ∧
    (s.owner.transport.settings.stripBanner = false → ∀ step : Step, step.On s.owner →
      ∃ a, step.processes = [(s.owner.process step.command.toShell, a)] ∧
        (step.Succeeded ↔ ∃ out, a = .ok out ∧ out.code = 0)) := by
  refine ⟨determined waited_perform, fun _ _ => executes_perform,
    fun action first rest res ends all => ends_iff ends all,
    fun plain step made => Step.alone_of_plain made plain⟩

/-- Two plugs and then their repository, on a host that does what it is asked. -/
theorem forgotten_after_both_plugs :
    let h : Host := { address := "host", transport := {} }
    let s : Storage := ⟨"sr", h⟩
    let step (command : Command) (printed text : String) : Step :=
      ⟨command, [(h.process command.toShell, .ok ⟨0, printed.toUTF8.data.toList⟩)], .ok text⟩
    let first := step s.list "b,a\n" "b,a"
    let rest := [step (act "pbd-unplug" "b") "" "", step (act "pbd-unplug" "a") "" "",
      step (act "sr-forget" "sr") "" ""]
    (∃ t, Runs (s.forget).run t (.ok ()) ∧
      ran t = ((first :: rest).map Step.processes).flatten) ∧
    (∀ made ∈ first :: rest, made.On h ∧ ∃ a,
      made.processes = [(h.process made.command.toShell, a)] ∧
        (made.Succeeded ↔ ∃ out, a = .ok out ∧ out.code = 0)) ∧
    ((first :: rest).map Step.command).getLast? = some (act "sr-forget" "sr") ∧
    ((first :: rest).map Step.command).count (act "sr-forget" "sr") = 1 := by
  intro h s step first rest
  obtain ⟨-, runs, ends, alone⟩ := plugs_before_repository s .forget
  have yields : ∀ made ∈ first :: rest, made.On h := by
    intro made mem
    simp only [first, rest, List.mem_cons, List.not_mem_nil, or_false] at mem
    rcases mem with rfl | rfl | rfl | rfl <;>
      exact (yields_plain_iff rfl).2 ⟨_, rfl, by decide +kernel⟩
  have all : UpToFailure (Chore.forget.plan s first.res) (first :: rest) (.ok ()) := by
    have plan : (first :: rest).map Step.command = Chore.forget.plan s first.res := by
      decide +kernel
    have succeeded : ∀ made ∈ first :: rest, made.Succeeded := by
      simp [first, rest, step, Step.Succeeded]
    exact ⟨plan ▸ List.prefix_rfl, fun made mem => succeeded made (List.mem_of_mem_dropLast mem),
      iff_of_true rfl ⟨plan, succeeded⟩, fun fault => by simp [first, rest, step]⟩
  obtain ⟨last, once⟩ := (ends "sr-forget" first rest _ rfl all).2 (by decide +kernel)
  exact ⟨(runs _ _).2 ⟨first, rest, rfl, yields, all⟩,
    fun made mem => ⟨yields made mem, alone rfl made (yields made mem)⟩, last, once⟩

end Storage

end Testbed
