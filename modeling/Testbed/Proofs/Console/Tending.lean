import Testbed.Proofs.Console.Calls
/-!
# Whoever is under watch is looked after

An addition puts up a watch and then starts the thread of the passes; a shutdown gives up the thread
and then the watches. Each of the four is a section of its own, so those of other calls come in
between: a watch may be put up just after the thread was given up, and a thread be started for
watches that are about to go. What holds at any moment is that the watches are looked after, or that
some call is on its way to see to it (`Progress.SeenTo`): whoever puts up a watch starts the thread
before its call ends, and whoever gives up the thread gives up the watches.

Main statements: `will_of_step`, a call that is on its way to something gets there or is still on
its way; `seenTo_of_steps`, in every interleaving of calls the watches are seen to.
-/
namespace Testbed.Console.Monitor

open Program

variable {ε α β : Type} {s : Settings.Console}

/-! ## What calls are on their way to -/

/-- Whatever it is answered, a call makes a request of a kind before it ends. -/
def Will (kind : Request ε → Prop) : Call ε α → Prop
  | .done _ => False
  | .ask r next => kind r ∨ ∀ a, Will kind (next a)

theorem will_bind {kind : Request ε → Prop} {p : Call ε α} (h : Will kind p) (f : α → Call ε β) :
    Will kind (p >>= f) := by
  induction p with
  | done a => exact h.elim
  | ask r next ih => exact h.imp_right fun later a => ih a (later a)

theorem not_will_of_asksOnly {kind other : Request ε → Prop} (apart : ∀ r, other r → ¬ kind r)
    {p : Call ε α} (h : AsksOnly (I := interface ε) other p) : ¬ Will kind p := by
  induction p with
  | done a => exact id
  | ask r next ih =>
    rintro (now | later)
    · exact apart r h.1 now
    · obtain ⟨a⟩ := exists_answer r
      exact ih a (h.2 a) (later a)

/-- A step leads to what it is on its way to, or goes on towards it. -/
theorem will_of_step {P : State ε → Prop} {kind : Request ε → Prop} (thread : Nat)
    {p q : Progress ε} {m : Move ε} (h : Step s p m q)
    (reached : ∀ {r : Request ε} {a : Answer ε r} {after : State ε}, m.exchange = some ⟨r, a⟩ →
      Serves s p.state r a m.deeds after → P p.state ∨ kind r → P after)
    (seen : P p.state ∨ Will kind (p.calls thread)) : P q.state ∨ Will kind (q.calls thread) := by
  cases h with
  | @start other entry idle =>
    refine seen.imp_right fun will => ?_
    rw [calls_setCall, if_neg]
    · exact will
    · rintro rfl
      rw [idle] at will
      exact will
  | @go other r next a deeds after asks serves =>
    rcases seen with now | will
    · exact .inl (reached rfl serves (.inl now))
    rw [calls_setCall]
    by_cases own : thread = other
    · subst own
      rw [asks] at will
      rw [if_pos rfl]
      exact will.imp (fun now => reached rfl serves (.inr now)) fun later => later a
    · rw [if_neg own]
      exact .inr will

/-! ## What sections do to the watches and to the thread -/

def Enters : (r : Request ε) → Answer ε r → Prop
  | .locked (.enter _ _ _ _), entered => entered = true
  | _, _ => False

theorem enter_of_enters {r : Request ε} {a : Answer ε r} (entered : Enters r a) :
    ∃ uuid subject host domid, r = .locked (.enter uuid subject host domid) := by
  rcases r with (_ | ⟨uuid, subject, host, domid⟩ | _ | _ | _ | _ | _ | _) | _ | _ | _ | _ | _
  case locked.enter => exact ⟨uuid, subject, host, domid, rfl⟩
  all_goals exact entered.elim

theorem watches_of_serves {st after : State ε} {r : Request ε} {a : Answer ε r} {deeds : Deeds ε}
    (h : Serves s st r a deeds after) (other : ¬ Enters r a)
    (empty : st.watches = .empty ∨ r = .locked .clear) : after.watches = .empty := by
  cases h with
  | locked run =>
    cases performed_of_runs run with
    | entered => exact absurd rfl other
    | leave uuid =>
      have empty := empty.resolve_right nofun
      simp only [empty]
      rfl
    | @settled visit status w deeds outcome found =>
      rw [empty.resolve_right nofun] at found
      cases found
    | clear => rfl
    | _ => exact empty.resolve_right nofun
  | _ => exact empty.resolve_right nofun

theorem worker_of_serves {st after : State ε} {r : Request ε} {a : Answer ε r} {deeds : Deeds ε}
    (h : Serves s st r a deeds after) (other : r ≠ .locked .startWorker) :
    r = .locked .takeWorker ∧ after.worker = none ∨
      r ≠ .locked .takeWorker ∧ after.worker = st.worker := by
  cases h with
  | locked run =>
    cases performed_of_runs run with
    | working | started | notStarted => exact absurd rfl other
    | takeWorker => exact .inl ⟨rfl, rfl⟩
    | settled => exact .inr ⟨nofun, worker_resolve ..⟩
    | _ => exact .inr ⟨nofun, rfl⟩
  | _ => exact .inr ⟨nofun, rfl⟩

def startFailed : Exchange (Device.interface ε) → Bool
  | ⟨.startThread, .error _⟩ => true
  | _ => false

/-- The thread is there once it was seen to, if threads can be started. -/
theorem isSome_of_startWorker {st after : State ε} {a : Unit} {deeds : Deeds ε}
    (h : Serves s st (.locked .startWorker) a deeds after)
    (starts : ∀ d ∈ deeds, ¬ startFailed d) : after.worker.isSome := by
  cases h with
  | locked run =>
    cases performed_of_runs run with
    | working there => exact there
    | started => rfl
    | notStarted => exact absurd rfl (starts _ (List.mem_cons_self ..))

/-! ## Whoever is under watch is looked after -/

/-- There is a thread for the watches, if there are any. -/
def State.Tended (st : State ε) : Prop := st.watches = .empty ∨ st.worker.isSome

/-- What sees to it that the watches are looked after. -/
def Tends : Request ε → Prop
  | .locked .startWorker | .locked .clear => True
  | _ => False

theorem eq_of_tends {r : Request ε} (tends : Tends r) :
    r = .locked .startWorker ∨ r = .locked .clear := by
  rcases r with (_ | _ | _ | _ | _ | _ | _ | _) | _ | _ | _ | _ | _
  case locked.startWorker => exact .inl rfl
  case locked.clear => exact .inr rfl
  all_goals exact tends.elim

/-- What can leave watches alone. -/
def Upsets (r : Request ε) (a : Answer ε r) : Prop := Enters r a ∨ r = .locked .takeWorker

/-- A call that never leaves watches alone without being on its way to see to them. -/
def Responsible : Call ε α → Prop
  | .done _ => True
  | .ask r next => ∀ a, (Upsets r a → Will Tends (next a)) ∧ Responsible (next a)

theorem responsible_bind {p : Call ε α} {f : α → Call ε β} (hp : Responsible p)
    (hf : ∀ a, Responsible (f a)) : Responsible (p >>= f) := by
  induction p with
  | done a => exact hf a
  | ask r next ih =>
    exact fun a => ⟨fun upset => will_bind ((hp a).1 upset) f, ih a (hp a).2⟩

theorem responsible_of_asksOnly {p : Call ε α}
    (h : AsksOnly (I := interface ε) (fun r => ∀ a, ¬ Upsets r a) p) : Responsible p := by
  induction p with
  | done a => trivial
  | ask r next ih => exact fun a => ⟨fun upset => absurd upset (h.1 a), ih a (h.2 a)⟩

theorem responsible_request {r : Request ε} (calm : ∀ a, ¬ Upsets r a) :
    Responsible (Program.request (I := interface ε) r) :=
  fun a => ⟨fun upset => absurd upset (calm a), trivial⟩

theorem responsible_ask {r : Request ε} {f : Answer ε r → Call ε α}
    (h : ∀ a, (Upsets r a → Will Tends (f a)) ∧ Responsible (f a)) :
    Responsible (Program.request (I := interface ε) r >>= f) := h

theorem not_upsets {r : Request ε} (open_ : ∀ a, ¬ Enters r a) (other : r ≠ .locked .takeWorker) :
    ∀ a, ¬ Upsets r a := fun a h => h.elim (open_ a) other

theorem responsible_query (subject : ε) : Responsible (query subject) :=
  responsible_of_asksOnly (asksOnly_query ⟨not_upsets nofun nofun, not_upsets nofun nofun⟩)

theorem responsible_add (uuid : String) (subject : ε) (host : Option String) :
    Responsible (add uuid subject host) := by
  unfold add
  refine responsible_bind (responsible_request (not_upsets nofun nofun)) fun watched => ?_
  rcases watched with _ | _
  case true => trivial
  refine responsible_bind (responsible_query subject) fun status => ?_
  have logs (level : Log.Level) (text : String) :
      Responsible (do log level text; return false : Call ε Bool) :=
    responsible_bind (responsible_request (not_upsets nofun nofun)) fun _ => trivial
  split
  · exact logs _ _
  · refine responsible_ask fun entered => ⟨fun upset => ?_, ?_⟩
    · obtain rfl : entered = true := upset.resolve_right nofun
      exact .inl trivial
    · rcases entered with _ | _
      · trivial
      · exact responsible_bind (responsible_request (not_upsets nofun nofun)) fun _ => trivial
  · exact logs _ _
  · exact logs _ _

theorem responsible_shutdown (s : Settings.Console) : Responsible (ε := ε) (shutdown s) := by
  have calm (uuid : String) (r : Recording) : ∀ a, ¬ Upsets (ε := ε) (.stop uuid r) a :=
    not_upsets nofun nofun
  have stops (rs : List (String × Recording)) : Responsible (ε := ε) (stopAll rs) :=
    responsible_of_asksOnly (asksOnly_stopAll calm rs)
  have last : Responsible (do stopAll (← locked .clear) : Call ε Unit) :=
    responsible_bind (responsible_request (not_upsets nofun nofun)) stops
  refine responsible_ask fun worker => ⟨fun _ => ?_, ?_⟩
  · rcases worker with _ | worker
    · exact .inl trivial
    · refine .inr fun ended => ?_
      rcases ended with _ | _
      · exact .inr fun _ => .inl trivial
      · exact .inl trivial
  · rcases worker with _ | worker
    · exact last
    · refine responsible_bind (responsible_request (not_upsets nofun nofun)) fun ended => ?_
      rcases ended with _ | _
      · exact responsible_bind (responsible_request (not_upsets nofun nofun)) fun _ => last
      · exact last

theorem responsible_call (s : Settings.Console) (entry : Entry ε) : Responsible (entry.call s) := by
  cases entry with
  | add uuid subject host => exact responsible_bind (responsible_add _ _ _) fun _ => trivial
  | remove uuid =>
    refine responsible_bind (responsible_request (not_upsets nofun nofun)) fun r => ?_
    rcases r with _ | r
    · trivial
    · exact responsible_request (not_upsets nofun nofun)
  | start => exact responsible_request (not_upsets nofun nofun)
  | pass =>
    exact responsible_of_asksOnly (asksOnly_pass (not_upsets nofun nofun)
      (fun _ => ⟨not_upsets nofun nofun, not_upsets nofun nofun⟩) fun _ _ => not_upsets nofun nofun)
  | shutdown => exact responsible_shutdown s

theorem responsible_of_step {p q : Progress ε} {m : Move ε} (h : Step s p m q)
    (responsible : ∀ thread, Responsible (p.calls thread)) :
    ∀ thread, Responsible (q.calls thread) :=
  callsKept_of_step h (fun entry _ => responsible_call s entry) (fun _ steps => (steps _).2)
    responsible

/-- The watches are looked after, or some call is on its way to see to it. -/
def Progress.SeenTo (p : Progress ε) : Prop :=
  p.state.Tended ∨ ∃ thread, Will Tends (p.calls thread)

theorem tended_of_serves {st after : State ε} {r : Request ε} {a : Answer ε r} {deeds : Deeds ε}
    (h : Serves s st r a deeds after) (starts : ∀ d ∈ deeds, ¬ startFailed d)
    (calm : ¬ Upsets r a) (tended : st.Tended ∨ Tends r) : after.Tended := by
  by_cases start : r = .locked .startWorker
  · subst start
    exact .inr (isSome_of_startWorker h starts)
  have worker := (worker_of_serves h start).resolve_left fun taken => calm (.inr taken.1)
  rcases tended with (empty | there) | tends
  · exact .inl (watches_of_serves h (fun entered => calm (.inl entered)) (.inl empty))
  · exact .inr (by rw [worker.2]; exact there)
  · have clears := (eq_of_tends tends).resolve_left start
    exact .inl (watches_of_serves h (fun entered => calm (.inl entered)) (.inr clears))

theorem seenTo_of_step {p q : Progress ε} {m : Move ε} (h : Step s p m q)
    (starts : ∀ d ∈ m.deeds, ¬ startFailed d)
    (responsible : ∀ thread, Responsible (p.calls thread)) (seen : p.SeenTo) : q.SeenTo := by
  by_cases upset : ∃ (r : Request ε) (a : Answer ε r), m.exchange = some ⟨r, a⟩ ∧ Upsets r a
  · obtain ⟨r, a, he, upset⟩ := upset
    cases h with
    | start => cases he
    | @go thread _ next _ deeds after asks _ =>
      cases he
      have steps := responsible thread
      rw [asks] at steps
      exact .inr ⟨thread, by simpa using (steps a).1 upset⟩
  · have reached {r : Request ε} {a : Answer ε r} {after : State ε}
        (he : m.exchange = some ⟨r, a⟩) (serves : Serves s p.state r a m.deeds after) :
        p.state.Tended ∨ Tends r → after.Tended :=
      tended_of_serves serves starts fun h => upset ⟨r, a, he, h⟩
    rcases seen with tended | ⟨thread, will⟩
    · exact (will_of_step 0 h reached (.inl tended)).imp_right fun will => ⟨0, will⟩
    · exact (will_of_step thread h reached (.inr will)).imp_right fun will => ⟨thread, will⟩

/-- **Somebody sees to it.** In any interleaving of calls in which threads can be started. -/
theorem seenTo_of_steps {p q : Progress ε} {ms : List (Move ε)} (run : Steps s p ms q)
    (starts : ∀ m ∈ ms, ∀ d ∈ m.deeds, ¬ startFailed d)
    (responsible : ∀ thread, Responsible (p.calls thread)) (seen : p.SeenTo) : q.SeenTo := by
  induction run with
  | rest => exact seen
  | move step _ ih =>
    have now := starts _ (List.mem_cons_self ..)
    have later := responsible_of_step step responsible
    exact ih (fun m hm => starts m (List.mem_cons_of_mem _ hm)) later
      (seenTo_of_step step now responsible seen)

end Testbed.Console.Monitor
