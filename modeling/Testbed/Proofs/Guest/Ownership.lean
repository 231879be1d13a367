import Mathlib.Data.List.Induction
import Testbed.Console.Attach
import Testbed.Guest.Call
import Testbed.Proofs.Host.Toolstack
import Testbed.Proofs.Transport.Processes
/-!
# Who owns a guest, and where its commands go

A guest that is held goes through a history of calls (`History`). Two calls are to move it, and they
are alike: the destination is asked for its uuid, the owner is given the command, and only then the
guest has its new owner (`Moving`, `relocate`). All others ask its owner alone and leave it where it
is.

Main statements: `makes_spec`, what one call does to the guest and where its commands go;
`guest_followed`, who owns the guest after any history.
-/
namespace Testbed.Guest

open Program Transport

variable {g next : Guest} {t : List (Exchange Transport.interface)}

/-! ## Histories -/

/-- A call that was made, what was said in it, and its answer. -/
structure Event where
  call : Call
  said : List (Exchange Transport.interface)
  answer : Except Fault call.Answer

/-- The call of the event, made on `g`, leaves its holder with `next`. -/
def Makes (g : Guest) (e : Event) (next : Guest) : Prop :=
  Runs (e.call.perform.run.run g) e.said (e.answer, next)

/-- What is done with a guest, one call after another, whatever is answered to its commands. -/
inductive History : Guest → List Event → Guest → Prop
  | nil (g : Guest) : History g [] g
  | cons {g next last : Guest} {e : Event} {rest : List Event} :
      g.Makes e next → History next rest last → History g (e :: rest) last

/-- The host that a call is to move the guest to. -/
def Call.target? : Call → Option Host
  | .start on => on
  | .migrate target => some target
  | _ => none

def Event.fault? (e : Event) : Option Fault :=
  match e.answer with
  | .ok _ => none
  | .error fault => some fault

def Event.moved? (e : Event) : Option Host := if e.fault?.isNone then e.call.target? else none

/-- The destination of the last call that moved the guest, or its first owner if none did. -/
def ownerAfter (first : Host) (events : List Event) : Host :=
  (events.filterMap Event.moved?).getLast?.getD first

def Event.made? : Event → Option Host
  | ⟨.snapshot _, _, .ok snapshot⟩ => some snapshot.owner
  | ⟨.clone _, _, .ok copy⟩ => some copy.owner
  | _ => none

/-! ## Calls that leave the guest where it is -/

/-- A host was given commands, one at least, and nothing else was asked for. -/
structure Given (host : Host) (said : List (Exchange Transport.interface)) : Prop where
  serves : ∀ x ∈ said, host.Serves x.request
  some : ran said ≠ []

theorem given_of_works {α : Type} {host : Host} {p : Program Transport.interface α} {a : α}
    (works : Works host.Serves p) (run : Runs p t a) : Given host t :=
  ⟨asksOnly_of_runs run works.asks, works.some run⟩

theorem works_xe (action : String) (args : List Xe.Argument) :
    Works g.owner.Serves (g.xe action args).run := Host.works_xe _ _

/-- A command that is announced to the log. -/
theorem works_announced {α : Type} (text action : String) (args : List Xe.Argument)
    (finish : String → Operation α)
    (serves : ∀ output, (finish output).run.AsksOnly (I := Transport.interface) g.owner.Serves) :
    Works g.owner.Serves
      (do Operation.log .info .guest text; finish (← g.xe action args)).run :=
  .after_log (fun _ => trivial) (.try_bind (works_xe _ _) serves)

theorem serves_newUuid (kind : Request → Prop) (what output : String) :
    (Operation.newUuid what output).run.AsksOnly (I := Transport.interface) kind := by
  unfold Operation.newUuid
  split <;> trivial

theorem works_powerState : Works g.owner.Serves g.powerState.run := .try_map (works_xe _ _)

theorem works_domid : Works g.owner.Serves g.domid.run := by
  refine .try_bind (works_xe _ _) fun text => ?_
  split <;> trivial

theorem works_awaitState (state : PowerState) (timeout : Duration) :
    Works g.owner.Serves (g.awaitState state timeout).run :=
  .wait (.try_bind works_powerState fun _ => trivial) (fun _ => trivial) fun _ => trivial

theorem runs_inPlace {α : Type} {operation : Guest → Operation α} {a : Except Fault α} :
    Runs ((inPlace operation).run.run g) t (a, next) ↔
      next = g ∧ Runs (operation g).run t a := by
  have text : (inPlace operation).run.run g =
      (operation g).run >>= fun a => .done (a, g) := rfl
  rw [text, runs_then_done]
  constructor
  · rintro ⟨a', same, run⟩
    obtain ⟨rfl, rfl⟩ := Prod.mk.inj same
    exact ⟨rfl, run⟩
  · rintro ⟨rfl, run⟩
    exact ⟨a, rfl, run⟩

/-- A call that has no destination leaves the guest where it is, and its commands go to the
owner. -/
theorem stays_of_makes {e : Event} (makes : g.Makes e next) (stays : e.call.target? = none) :
    next = g ∧ Given g.owner e.said := by
  obtain ⟨call, said, answer⟩ := e
  have given {α : Type} {operation : Guest → Operation α} {a : Except Fault α}
      (run : Runs ((inPlace operation).run.run g) said (a, next))
      (works : Works g.owner.Serves (operation g).run) : next = g ∧ Given g.owner said := by
    obtain ⟨rfl, run⟩ := runs_inPlace.1 run
    exact ⟨rfl, given_of_works works run⟩
  -- whatever its answer, each of these calls begins with a command to the owner
  cases call with
  | parameter name => exact given makes (works_xe _ _)
  | parameters => exact given makes (.try_map (works_xe _ _))
  | setParameter name value => exact given makes (.try_bind (works_xe _ _) fun _ => trivial)
  | powerState => exact given makes works_powerState
  | domid => exact given makes works_domid
  | isRunning => exact given makes (.try_bind works_powerState fun _ => trivial)
  | start on =>
    cases on with
    | none => exact given makes (works_announced _ _ _ _ fun _ => trivial)
    | some host => cases stays
  | shutdown force | reboot force | destroy =>
    exact given makes (works_announced _ _ _ _ fun _ => trivial)
  | awaitRunning timeout | awaitHalted timeout => exact given makes (works_awaitState _ _)
  | migrate target => cases stays
  | snapshot name | clone name =>
    exact given makes (works_announced _ _ _ _ fun output =>
      asksOnly_try_bind (serves_newUuid _ _ _) fun _ => trivial)
  | diskUuids => exact given makes (.try_map (Host.works_xeList _ _))

/-! ## Calls that are to move the guest -/

/-- A host was asked for its uuid, and for nothing else. -/
structure Asked (target : Host) (said : List (Exchange Transport.interface)) : Prop where
  serves : ∀ x ∈ said, target.Serves x.request
  ran : target.Ran said ["xe", "host-list", "address=" ++ target.address, "--minimal"]

/-- What is said in a call that is to move a guest, and the fault that it ends in. -/
inductive Moving (owner target : Host) :
    List (Exchange Transport.interface) → Option Fault → Prop
  /-- The destination has not said its uuid, and that is all. -/
  | unknown (entry : Log.Entry) {lookup : List (Exchange Transport.interface)} {fault : Fault} :
      Asked target lookup → Runs target.uuid.run lookup (.error fault) →
      Moving owner target (⟨.log entry, ()⟩ :: lookup) (some fault)
  /-- The owner was given the command. -/
  | known (entry : Log.Entry) {lookup rest : List (Exchange Transport.interface)} {uuid : String}
      {fault : Option Fault} :
      Asked target lookup → Runs target.uuid.run lookup (.ok uuid) →
      Given owner rest →
      Moving owner target (⟨.log entry, ()⟩ :: (lookup ++ rest)) fault

theorem asked_of_uuid {target : Host} {found : Except Fault String}
    (run : Runs target.uuid.run t found) : Asked target t := by
  refine ⟨asksOnly_of_runs run Host.works_uuid.asks, ?_⟩
  have listed {said : List (Exchange Transport.interface)} {res : Except Fault (List String)}
      (run : Runs (target.xeList "host-list" [("address", target.address)]).run said res) :
      target.Ran said ["xe", "host-list", "address=" ++ target.address, "--minimal"] := by
    obtain ⟨_, -, run⟩ := runs_try_map.1 run
    exact Host.ran_of_ssh run
  rcases runs_try_bind.1 run with ⟨_, -, run⟩ | ⟨t₁, t₂, uuids, rfl, run, read⟩
  · exact listed run
  have silent : t₂ = [] := by
    unfold Host.theOnly at read
    split at read
    · exact (runs_try_pure.1 read).1
    · exact (runs_throw.1 read).1
  rw [silent, List.append_nil]
  exact listed run

/-- The command to the owner by which a guest gets to a host that was asked for its uuid. -/
def relocate (g : Guest) (target : Host) (text action : String)
    (args : String → List Xe.Argument) : Operation Guest := do
  .log .info .guest text
  let uuid ← target.uuid
  let _ ← g.xe action (args uuid)
  return { g with owner := target }

theorem startOn_eq_relocate (g : Guest) (host : Host) :
    g.startOn host =
      g.relocate host s!"Start vm {g.uuid}" "vm-start" fun uuid => [("on", uuid)] := rfl

theorem migrate_eq_relocate (g : Guest) (target : Host) :
    g.migrate target = g.relocate target s!"Migrate vm {g.uuid} to {target.address}" "vm-migrate"
      fun uuid => [("host-uuid", uuid), ("live", "true")] := rfl

/-- What is left of a guest that was to be moved: the guest that came of it, or the guest as it
was. -/
def afterMoving (g : Guest) (res : Except Fault Guest) : Except Fault Unit × Guest :=
  match res with
  | .ok moved => (.ok (), moved)
  | .error fault => (.error fault, g)

theorem runs_moving {operation : Guest → Operation Guest} {a : Except Fault Unit} :
    Runs ((moving operation).run.run g) t (a, next) ↔
      (∃ fault, a = .error fault ∧ next = g ∧ Runs (operation g).run t (.error fault)) ∨
        a = .ok () ∧ Runs (operation g).run t (.ok next) := by
  have text : (moving operation).run.run g =
      (operation g).run >>= fun res => .done (afterMoving g res) := by
    refine congrArg ((operation g).run >>= ·) (funext fun res => ?_)
    rcases res with fault | moved <;> rfl
  rw [text, runs_then_done]
  constructor
  · rintro ⟨fault | moved, same, run⟩ <;> obtain ⟨rfl, rfl⟩ := Prod.mk.inj same
    · exact .inl ⟨fault, rfl, rfl, run⟩
    · exact .inr ⟨rfl, run⟩
  · rintro (⟨fault, rfl, rfl, run⟩ | ⟨rfl, run⟩)
    · exact ⟨.error fault, rfl, run⟩
    · exact ⟨.ok next, rfl, run⟩

theorem moving_of_relocate {target : Host} {text action : String}
    {args : String → List Xe.Argument} {res : Except Fault Guest}
    (run : Runs (g.relocate target text action args).run t res) :
    (∃ fault, res = .error fault ∧ Moving g.owner target t (some fault)) ∨
      res = .ok { g with owner := target } ∧ Moving g.owner target t none := by
  obtain ⟨t₁, t₂, _, rfl, logged, rest⟩ := runs_lift_bind.1 run
  obtain rfl := (runs_request_iff (I := Transport.interface)).1 logged
  rcases runs_try_bind.1 rest with ⟨fault, rfl, failed⟩ | ⟨t₃, t₄, uuid, rfl, found, rest⟩
  · exact .inl ⟨fault, rfl, .unknown _ (asked_of_uuid failed) failed⟩
  have known {rest : List (Exchange Transport.interface)} {a : Except Fault String}
      (run : Runs (g.xe action (args uuid)).run rest a) (fault : Option Fault) :
      Moving g.owner target (⟨.log ⟨.info, .guest, text⟩, ()⟩ :: (t₃ ++ rest)) fault :=
    .known _ (asked_of_uuid found) found (given_of_works (works_xe _ _) run)
  rcases runs_try_bind.1 rest with ⟨fault, rfl, failed⟩ | ⟨t₅, t₆, _, rfl, commanded, ended⟩
  · exact .inl ⟨fault, rfl, known failed _⟩
  · obtain ⟨rfl, rfl⟩ := runs_try_pure.1 ended
    rw [List.append_nil]
    exact .inr ⟨rfl, known commanded _⟩

/-- A call that has a destination moves the guest to it if it ends well, and only then. -/
theorem relocated_of_makes {e : Event} {target : Host} (makes : g.Makes e next)
    (moves : e.call.target? = some target) :
    Moving g.owner target e.said e.fault? ∧
      next = match e.fault? with
        | some _ => g
        | none => { g with owner := target } := by
  obtain ⟨call, said, answer⟩ := e
  have relocated {operation : Guest → Operation Guest} {text action : String}
      {args : String → List Xe.Argument} {answer : Except Fault Unit}
      (same : operation g = g.relocate target text action args)
      (run : Runs ((moving operation).run.run g) said (answer, next)) :
      (∃ fault, answer = .error fault ∧ next = g ∧ Moving g.owner target said (some fault)) ∨
        answer = .ok () ∧ next = { g with owner := target } ∧
          Moving g.owner target said none := by
    rcases runs_moving.1 run with ⟨fault, rfl, rfl, operated⟩ | ⟨rfl, operated⟩
    · rw [same] at operated
      rcases moving_of_relocate operated with ⟨_, failed, said⟩ | ⟨ended, -⟩
      · cases failed
        exact .inl ⟨fault, rfl, rfl, said⟩
      · cases ended
    · rw [same] at operated
      rcases moving_of_relocate operated with ⟨_, failed, -⟩ | ⟨ended, said⟩
      · cases failed
      · cases ended
        exact .inr ⟨rfl, rfl, said⟩
  cases call with
  | start on =>
    cases moves
    obtain ⟨fault, rfl, rfl, said⟩ | ⟨rfl, rfl, said⟩ :=
      relocated (startOn_eq_relocate g target) makes <;> exact ⟨said, rfl⟩
  | migrate host =>
    cases moves
    obtain ⟨fault, rfl, rfl, said⟩ | ⟨rfl, rfl, said⟩ :=
      relocated (migrate_eq_relocate g target) makes <;> exact ⟨said, rfl⟩
  | _ => cases moves

/-! ## One call -/

/-- Where the commands of a call go if the guest is `owner`'s when it begins. -/
def Event.Routed (owner : Host) (e : Event) : Prop :=
  match e.call.target? with
  | none => Given owner e.said
  | some target => Moving owner target e.said e.fault?

/-- What is made of the uuid that a command has printed. -/
theorem made_of_newUuid {α : Type} {text action what : String} {args : List Xe.Argument}
    {finish : String → α} {a : α}
    (run : Runs (do
      Operation.log .info .guest text
      let uuid ← Operation.newUuid what (← g.xe action args)
      return finish uuid).run t (.ok a)) : ∃ uuid, a = finish uuid := by
  obtain ⟨_, _, _, -, -, run⟩ := runs_lift_bind.1 run
  rcases runs_try_bind.1 run with ⟨_, failed, -⟩ | ⟨_, _, _, -, -, run⟩
  · cases failed
  rcases runs_try_bind.1 run with ⟨_, failed, -⟩ | ⟨_, _, uuid, -, -, ended⟩
  · cases failed
  · exact ⟨uuid, Except.ok.inj (runs_try_pure.1 ended).2⟩

theorem owner_of_made {e : Event} (makes : g.Makes e next) {owner : Host}
    (made : e.made? = some owner) : owner = g.owner := by
  obtain ⟨call, said, answer⟩ := e
  cases call with
  | snapshot name =>
    rcases answer with fault | snapshot <;> cases made
    obtain ⟨uuid, rfl⟩ := made_of_newUuid (runs_inPlace.1 makes).2
    rfl
  | clone name =>
    rcases answer with fault | copy <;> cases made
    obtain ⟨uuid, rfl⟩ := made_of_newUuid (runs_inPlace.1 makes).2
    rfl
  | _ => cases made

/-- **One call.** The commands go to the owner, and to a destination that is asked for its uuid; the
guest is moved if the call is to move it and ends well, and is as it was if not; and what the call
makes has the owner of the guest. -/
theorem makes_spec {e : Event} (makes : g.Makes e next) :
    e.Routed g.owner ∧ next = { g with owner := e.moved?.getD g.owner } ∧
      ∀ owner, e.made? = some owner → owner = g.owner := by
  have made (owner : Host) : e.made? = some owner → owner = g.owner := owner_of_made makes
  rcases destination : e.call.target? with _ | target
  · obtain ⟨rfl, served⟩ := stays_of_makes makes destination
    have stayed : e.moved? = none := by simp [Event.moved?, destination]
    rw [Event.Routed, destination, stayed]
    exact ⟨served, rfl, made⟩
  · obtain ⟨said, rfl⟩ := relocated_of_makes makes destination
    rw [Event.Routed, destination, Event.moved?, destination]
    refine ⟨said, ?_, made⟩
    cases e.fault? <;> rfl

/-! ## One call after another -/

variable {last : Guest} {before after : List Event}

theorem history_append : History g (before ++ after) last ↔
    ∃ held, History g before held ∧ History held after last := by
  induction before generalizing g with
  | nil =>
    constructor
    · exact fun history => ⟨g, .nil g, history⟩
    · rintro ⟨held, first, rest⟩
      cases first
      exact rest
  | cons e before ih =>
    constructor
    · intro history
      cases history with
      | cons makes rest =>
        obtain ⟨held, first, rest⟩ := ih.1 rest
        exact ⟨held, .cons makes first, rest⟩
    · rintro ⟨held, first, rest⟩
      cases first with
      | cons makes first => exact .cons makes (ih.2 ⟨held, first, rest⟩)

theorem ownerAfter_append_singleton (first : Host) (before : List Event) (e : Event) :
    ownerAfter first (before ++ [e]) = e.moved?.getD (ownerAfter first before) := by
  rw [ownerAfter, List.filterMap_append]
  rcases moved : e.moved? with _ | target <;> simp [moved, ownerAfter]

/-- The guest is the same after any history, and its owner is the last host that it was moved to. -/
theorem History.followed (history : History g before last) :
    last.uuid = g.uuid ∧ last.owner = ownerAfter g.owner before := by
  -- from the end: the last call is made on the guest that those before it have left
  induction before using List.reverseRecOn generalizing last with
  | nil =>
    cases history
    exact ⟨rfl, rfl⟩
  | append_singleton before e ih =>
    obtain ⟨held, first, rest⟩ := history_append.1 history
    cases rest with
    | cons makes ended =>
      cases ended
      obtain ⟨uuid, owner⟩ := ih first
      obtain ⟨-, rfl, -⟩ := makes_spec makes
      rw [ownerAfter_append_singleton, ← owner]
      exact ⟨uuid, rfl⟩

/-- Calls can be made on a guest whatever is answered in them. -/
theorem exists_history (g : Guest) (calls : List Call) (script : Nat → Except IoError Output) :
    ∃ events last, History g events last ∧ events.map Event.call = calls ∧
      Scripted script (events.flatMap Event.said) := by
  induction calls generalizing g script with
  | nil => exact ⟨[], g, .nil g, rfl, nofun⟩
  | cons call calls ih =>
    obtain ⟨said, ⟨answer, next⟩, run, scripted⟩ :=
      exists_runs_scripted script (call.perform.run.run g)
    obtain ⟨events, last, history, same, rest⟩ := ih next fun i => script ((ran said).length + i)
    refine ⟨⟨call, said, answer⟩ :: events, last, .cons run history, ?_, scripted.append rest⟩
    rw [List.map_cons, same]

/-- **Following a guest.** Calls can be made on a guest in any order, whatever is answered in them.
Its owner is then the host of the last call that moved it, or its first owner if there is none, and
that is the host that the monitor sees. Whoever owns it when a call begins is given the commands of
the call, but for the lookup of a destination, which goes there and is all if it fails; the guest is
left as it was unless the call moves it; and a snapshot or a copy that is made has that owner. -/
theorem guest_followed :
    (∀ (g : Guest) (calls : List Call) (script : Nat → Except IoError Output),
      ∃ events last, History g events last ∧ events.map Event.call = calls ∧
        Scripted script (events.flatMap Event.said)) ∧
    ∀ {g last : Guest} {events : List Event}, History g events last →
      last.uuid = g.uuid ∧ last.owner = ownerAfter g.owner events ∧
      (Console.viewOf last).host = last.owner.address ∧
      ∀ before e after, events = before ++ e :: after → ∃ held next : Guest,
        History g before held ∧ held.Makes e next ∧ History next after last ∧
        held.owner = ownerAfter g.owner before ∧
        (Console.viewOf held).host = held.owner.address ∧
        e.Routed held.owner ∧
        (e.moved? = none → next = held) ∧
        (∀ target, e.moved? = some target → next.owner = target) ∧
        ∀ owner, e.made? = some owner → owner = held.owner := by
  refine ⟨exists_history, fun {g last events} history => ?_⟩
  obtain ⟨uuid, owner⟩ := history.followed
  refine ⟨uuid, owner, rfl, fun before e after split => ?_⟩
  subst split
  obtain ⟨held, first, rest⟩ := history_append.1 history
  cases rest with
  | cons makes rest =>
    obtain ⟨routed, moved, made⟩ := makes_spec makes
    refine ⟨held, _, first, makes, rest, first.followed.2, rfl, routed, ?_, ?_, made⟩
    · intro stays
      rw [moved, stays]
      rfl
    · intro target moves
      rw [moved, moves]
      rfl

def Call.madeOn (c : Call) (g : Guest) (answer : (r : Request) → Transport.Answer r) :
    Event × Guest :=
  let followed := (c.perform.run.run g).follow (I := Transport.interface) answer
  (⟨c, followed.1, followed.2.1⟩, followed.2.2)

theorem makes_madeOn (c : Call) (answer : (r : Request) → Transport.Answer r) :
    g.Makes (c.madeOn g answer).1 (c.madeOn g answer).2 := runs_follow (I := Transport.interface) ..

/-- A guest that was migrated and could not be started on a third host stays with the second, which
then has its snapshot. -/
theorem followed_past_failed_start :
    let host (address : String) : Host := { address, transport := {} }
    let g : Guest := ⟨"vm", host "first"⟩
    let moved := (Call.migrate (host "second")).madeOn g (Host.ending 0 "uuid")
    let failed := (Call.start (some (host "third"))).madeOn moved.2 (Host.ending 255 "")
    let taken := (Call.snapshot "state").madeOn failed.2 (Host.ending 0 "uuid")
    History g [moved.1, failed.1, taken.1] taken.2 ∧ failed.1.fault?.isSome ∧
      taken.2.owner = host "second" ∧ taken.1.made? = some (host "second") := by
  intro host g moved failed taken
  have history : History g [moved.1, failed.1, taken.1] taken.2 :=
    .cons (makes_madeOn _ _) (.cons (makes_madeOn _ _) (.cons (makes_madeOn _ _) (.nil _)))
  have owner : ownerAfter g.owner [moved.1, failed.1, taken.1] = host "second" := by decide +kernel
  obtain ⟨-, followed, -⟩ := guest_followed.2 history
  exact ⟨history, by decide +kernel, followed.trans owner, by decide +kernel⟩

end Testbed.Guest
