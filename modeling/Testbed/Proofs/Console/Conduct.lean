import Mathlib.Data.List.Forall2
import Testbed.Proofs.Console.Dealings
/-!
# Two runs that are answered alike

A `Conduct` is how a subject, its processes and its launcher answer, whenever they are asked.
`Uniform c s uuid R p p'` says of two programs that whenever both are answered by the conduct `c`,
they carry out the same operations one after another, up to the moment in the name of a log and the
label of a process (`Alike`), and have results in the relation `R`. It is proved part by part, along
the text of the programs.

Main statement: `uniform_reconcile`, what is done about a watch, and what becomes of it, is settled
by the watch, by what was learnt about its subject and by the conduct.
-/
namespace Testbed.Console

open Program

/-- How a subject and what goes with it answer. -/
structure Conduct where
  state : Except Fault PowerState
  domid : Except Fault (Option Nat)
  host : String
  /-- Whether the directory of the logs can be made. -/
  logDir : Except IoError Unit
  /-- Whether its log can be opened. -/
  log : Except IoError Unit
  /-- Whether its console can be streamed from a domain on a host. -/
  launch : String → Nat → Except Failure Unit
  process : (r : Process.Request) → Process.Answer r

variable {ε α β : Type} {c : Conduct} {s : Settings.Console} {uuid : String}

/-- An exchange in which the answer is that of a conduct. Which process was launched is left open,
and so is what is found on disk. -/
def Conduct.Does (c : Conduct) : Exchange (Device.interface ε) → Prop
  | ⟨.hostOf _, a⟩ => a = c.host
  | ⟨.launch host domid _, a⟩ => Except.map (fun _ => ()) a = c.launch host domid
  | ⟨.process r, a⟩ => a = c.process r
  | ⟨.makeDirs _, a⟩ => a = c.logDir
  | ⟨.openLog _, a⟩ => a = c.log
  | _ => True

instance (c : Conduct) : (e : Exchange (Device.interface ε)) → Decidable (c.Does e)
  | ⟨.hostOf _, a⟩ => decEq (α := String) a c.host
  | ⟨.launch host domid _, a⟩ =>
    decEq (α := Except Failure Unit) (Except.map (fun _ => ()) a) (c.launch host domid)
  | ⟨.process (.hasExited p), a⟩ => decEq (α := Except IoError Bool) a (c.process (.hasExited p))
  | ⟨.process (.terminate p), a⟩ => decEq (α := Except IoError Unit) a (c.process (.terminate p))
  | ⟨.process (.kill p), a⟩ => decEq (α := Except IoError Unit) a (c.process (.kill p))
  | ⟨.process (.waitExit p timeout), a⟩ =>
    decEq (α := Except IoError Bool) a (c.process (.waitExit p timeout))
  | ⟨.process (.log entry), a⟩ => decEq (α := Unit) a (c.process (.log entry))
  | ⟨.makeDirs _, a⟩ => decEq (α := Except IoError Unit) a c.logDir
  | ⟨.openLog _, a⟩ => decEq (α := Except IoError Unit) a c.log
  | ⟨.fileSize _, _⟩ | ⟨.removeFile _, _⟩ | ⟨.now, _⟩ | ⟨.startThread, _⟩ | ⟨.log _, _⟩ =>
    .isTrue trivial

/-- The exchanges with the subject, the launcher and the processes. -/
def operations (t : List (Exchange (Device.interface ε))) : List (Exchange (Device.interface ε)) :=
  t.filter fun
    | ⟨.hostOf _, _⟩ | ⟨.launch _ _ _, _⟩ | ⟨.process _, _⟩ => true
    | _ => false

theorem operations_append (t t' : List (Exchange (Device.interface ε))) :
    operations (t ++ t') = operations t ++ operations t' := List.filter_append ..

/-- A path is that of a log for a uuid on a host, whenever it was opened. -/
def IsLogOf (s : Settings.Console) (uuid host path : String) : Prop :=
  ∃ t, path = pathIn s.logDir (logName host uuid t)

/-- Exchanges that differ at most in the moment of a log and the label of a process. -/
inductive Alike (s : Settings.Console) (uuid : String) :
    Exchange (Device.interface ε) → Exchange (Device.interface ε) → Prop
  | refl (e : Exchange (Device.interface ε)) : Alike s uuid e e
  | launch {host : String} {domid : Nat} {log log' : String} {a a' : Except Failure Process} :
      IsLogOf s uuid host log → IsLogOf s uuid host log' →
      a.map (fun _ => ()) = a'.map (fun _ => ()) →
      Alike s uuid ⟨.launch host domid log, a⟩ ⟨.launch host domid log', a'⟩

/-- Recordings that are the same, or were both begun for a domain on a host. -/
inductive SameRecording (s : Settings.Console) (uuid : String) :
    Option Recording → Option Recording → Prop
  | kept (r : Option Recording) : SameRecording s uuid r r
  | begun {host path path' : String} (domid : Nat) (p p' : Process) :
      IsLogOf s uuid host path → IsLogOf s uuid host path' →
      SameRecording s uuid (some ⟨domid, path, p⟩) (some ⟨domid, path', p'⟩)

/-- Watches that differ at most in the moment and the process of a recording. -/
structure SameWatch (s : Settings.Console) (uuid : String) (w w' : Watch ε) : Prop where
  id : w'.id = w.id
  subject : w'.subject = w.subject
  host : w'.host = w.host
  recording : SameRecording s uuid w.recording w'.recording

theorem SameWatch.refl (w : Watch ε) : SameWatch s uuid w w := ⟨rfl, rfl, rfl, .kept _⟩

/-! ## Programs in two runs -/

/-- Answered by a conduct, two programs do the same and have results that are in a relation. -/
def Uniform (c : Conduct) (s : Settings.Console) (uuid : String) (R : α → α → Prop)
    (p p' : Care ε α) : Prop :=
  ∀ t a t' a', Runs p t a → Runs p' t' a' → (∀ e ∈ t, c.Does e) → (∀ e ∈ t', c.Does e) →
    List.Forall₂ (Alike s uuid) (operations t) (operations t') ∧ R a a'

theorem uniform_done {R : α → α → Prop} {a a' : α} (h : R a a') :
    Uniform (ε := ε) c s uuid R (.done a) (.done a') := by
  intro t b t' b' run run' _ _
  obtain ⟨rfl, rfl⟩ := runs_done_iff.1 run
  obtain ⟨rfl, rfl⟩ := runs_done_iff.1 run'
  exact ⟨.nil, h⟩

theorem uniform_bind {p p' : Care ε α} {f f' : α → Care ε β} {R' : β → β → Prop}
    (R : α → α → Prop) (hp : Uniform c s uuid R p p')
    (hf : ∀ a a', R a a' → Uniform c s uuid R' (f a) (f' a')) :
    Uniform c s uuid R' (p >>= f) (p' >>= f') := by
  intro t b t' b' run run' does does'
  obtain ⟨t₁, t₂, a, rfl, h₁, h₂⟩ := runs_bind.1 run
  obtain ⟨t₁', t₂', a', rfl, h₁', h₂'⟩ := runs_bind.1 run'
  obtain ⟨alike, related⟩ := hp t₁ a t₁' a' h₁ h₁' (fun e he => does e (List.mem_append_left _ he))
    fun e he => does' e (List.mem_append_left _ he)
  obtain ⟨alike', related'⟩ := hf a a' related t₂ b t₂' b' h₂ h₂'
    (fun e he => does e (List.mem_append_right _ he))
    fun e he => does' e (List.mem_append_right _ he)
  rw [operations_append, operations_append]
  exact ⟨List.rel_append alike alike', related'⟩

theorem Uniform.mono {p p' : Care ε α} {R R' : α → α → Prop} (h : Uniform c s uuid R p p')
    (weaker : ∀ a a', R a a' → R' a a') : Uniform c s uuid R' p p' :=
  fun t a t' a' run run' does does' =>
    (h t a t' a' run run' does does').imp_right (weaker a a')

/-- Two results of parts that may fail: both failed, or neither. -/
inductive Both (R : α → α → Prop) : Except Trouble α → Except Trouble α → Prop
  | ok {a a' : α} : R a a' → Both R (.ok a) (.ok a')
  | error (e e' : Trouble) : Both R (.error e) (.error e')

theorem both_of_eq {res res' : Except Trouble α} (same : res = res') : Both Eq res res' := by
  subst same
  rcases res with e | a
  · exact .error e e
  · exact .ok rfl

theorem uniform_try_bind {x x' : RiskyCare ε α} {f f' : α → RiskyCare ε β} {R' : β → β → Prop}
    (R : α → α → Prop) (hx : Uniform c s uuid (Both R) x.run x'.run)
    (hf : ∀ a a', R a a' → Uniform c s uuid (Both R') (f a).run (f' a').run) :
    Uniform c s uuid (Both R') (x >>= f).run (x' >>= f').run := by
  rw [ExceptT.run_bind, ExceptT.run_bind]
  refine uniform_bind _ hx fun res res' both => ?_
  cases both with
  | ok related => exact hf _ _ related
  | error e e' => exact uniform_done (.error e e')

theorem uniform_lift {p p' : Care ε α} {R : α → α → Prop} (h : Uniform c s uuid R p p') :
    Uniform c s uuid (Both R) (ExceptT.lift p : RiskyCare ε α).run
      (ExceptT.lift p' : RiskyCare ε α).run :=
  uniform_bind _ h fun _ _ related => uniform_done (.ok related)

/-! ## Single requests -/

/-- A request that is no operation, and whose answer a conduct leaves open. -/
def Unseen : Device.Request ε → Prop
  | .fileSize _ | .removeFile _ | .now | .log _ => True
  | _ => False

/-- A request whose answer is settled by the conduct. -/
def Ruled : Device.Request ε → Prop
  | .hostOf _ | .process _ | .makeDirs _ | .openLog _ => True
  | _ => False

theorem operations_of_unseen {t : List (Exchange (Device.interface ε))}
    (h : ∀ e ∈ t, Unseen e.request) : operations t = [] := by
  refine List.filter_eq_nil_iff.2 fun ⟨r, a⟩ he => ?_
  have unseen := h _ he
  cases r with
  | fileSize | removeFile | now | log => simp
  | _ => exact unseen.elim

theorem uniform_of_unseen {p p' : Care ε α}
    (h : AsksOnly (I := Device.interface ε) Unseen p)
    (h' : AsksOnly (I := Device.interface ε) Unseen p') :
    Uniform c s uuid (fun _ _ => True) p p' := by
  intro t a t' a' run run' _ _
  rw [operations_of_unseen (asksOnly_of_runs run h),
    operations_of_unseen (asksOnly_of_runs run' h')]
  exact ⟨.nil, trivial⟩

theorem answer_of_ruled {r : Device.Request ε} {a a' : Device.Answer ε r} (ruled : Ruled r)
    (does : c.Does ⟨r, a⟩) (does' : c.Does ⟨r, a'⟩) : a = a' := by
  cases r with
  | hostOf | process | makeDirs | openLog =>
    exact Eq.trans does does'.symm
  | _ => exact ruled.elim

/-- A program that is ruled by the conduct runs in one way only. -/
theorem uniform_of_ruled {p : Care ε α} (h : AsksOnly (I := Device.interface ε) Ruled p) :
    Uniform c s uuid Eq p p := by
  induction p with
  | done a => exact uniform_done rfl
  | ask r next ih =>
    intro t b t' b' run run' does does'
    obtain ⟨a, rest, rfl, later⟩ := runs_ask_iff.1 run
    obtain ⟨a', rest', rfl, later'⟩ := runs_ask_iff.1 run'
    obtain rfl := answer_of_ruled h.1 (does _ (List.mem_cons_self ..))
      (does' _ (List.mem_cons_self ..))
    obtain ⟨alike, same⟩ := ih a (h.2 a) rest b rest' b' later later'
      (fun e he => does e (List.mem_cons_of_mem _ he))
      fun e he => does' e (List.mem_cons_of_mem _ he)
    refine ⟨?_, same⟩
    rw [← List.singleton_append, ← List.singleton_append (l := rest'), operations_append,
      operations_append]
    exact List.rel_append (List.forall₂_same.2 fun e _ => .refl e) alike

theorem uniform_log (level level' : Log.Level) (text text' : String) :
    Uniform (ε := ε) c s uuid (fun _ _ => True) (Device.log level text) (Device.log level' text') :=
  uniform_of_unseen (asksOnly_ask trivial) (asksOnly_ask trivial)

/-- Logs of any names are opened in the same way. -/
theorem uniform_openLog (path path' : String) :
    Uniform (ε := ε) c s uuid (Both fun _ _ => True) (openLog path).run (openLog path').run := by
  intro t res t' res' run run' does does'
  obtain ⟨a, rfl, ask⟩ := runs_mapError.1 run
  obtain ⟨a', rfl, ask'⟩ := runs_mapError.1 run'
  obtain rfl := runs_ask.1 ask
  obtain rfl := runs_ask.1 ask'
  have same : a = a' :=
    Eq.trans (does _ (List.mem_singleton_self _)) (does' _ (List.mem_singleton_self _)).symm
  refine ⟨.nil, ?_⟩
  subst same
  rcases a with e | _
  · exact .error _ _
  · exact .ok trivial

theorem uniform_launch {host log log' : String} (domid : Nat) (h : IsLogOf s uuid host log)
    (h' : IsLogOf s uuid host log') :
    Uniform (ε := ε) c s uuid (fun a a' => Except.map (fun _ => ()) a = Except.map (fun _ => ()) a')
      (Device.ask (.launch host domid log)) (Device.ask (.launch host domid log')) := by
  intro t a t' a' run run' does does'
  obtain rfl := runs_ask.1 run
  obtain rfl := runs_ask.1 run'
  have same : Except.map (fun _ => ()) a = Except.map (fun _ => ()) a' :=
    Eq.trans (does _ (List.mem_singleton_self _)) (does' _ (List.mem_singleton_self _)).symm
  exact ⟨.cons (.launch h h' same) .nil, same⟩

/-! ## Recordings and watches -/

theorem unseen_removeIfEmpty (path : String) :
    AsksOnly (I := Device.interface ε) Unseen (removeIfEmpty path) := by
  unfold removeIfEmpty
  refine asksOnly_bind (asksOnly_ask trivial) fun size => ?_
  rcases size with e | n
  · exact asksOnly_ask trivial
  by_cases hn : n = 0
  · simp only [hn, ↓reduceIte]
    refine asksOnly_bind (asksOnly_ask trivial) fun removed => ?_
    rcases removed with e | _
    · exact asksOnly_ask trivial
    · trivial
  · simp only [hn, ↓reduceIte]
    trivial

theorem uniform_beginRecording (host : String) (domid : Nat) :
    Uniform (ε := ε) c s uuid (Both fun r r' => SameRecording s uuid (some r) (some r'))
      (beginRecording s uuid host domid).run (beginRecording s uuid host domid).run := by
  unfold beginRecording
  refine uniform_try_bind Eq ?_ fun _ _ _ => ?_
  · exact (uniform_of_ruled (asksOnly_makeDirs trivial)).mono fun _ _ => both_of_eq
  refine uniform_try_bind (fun _ _ => True) ?_ fun now now' _ => ?_
  · exact uniform_lift (uniform_of_unseen (asksOnly_ask trivial) (asksOnly_ask trivial))
  refine uniform_try_bind _ (uniform_openLog _ _) fun _ _ _ => ?_
  refine uniform_try_bind _ (uniform_lift (uniform_launch domid ⟨now, rfl⟩ ⟨now', rfl⟩))
    fun answer answer' same => ?_
  rcases answer with e | p <;> rcases answer' with e' | p'
  · refine uniform_try_bind (fun _ _ => True) ?_ fun _ _ _ => uniform_done (.error _ _)
    exact uniform_lift (uniform_of_unseen (unseen_removeIfEmpty _) (unseen_removeIfEmpty _))
  · cases same
  · cases same
  · exact uniform_done (.ok (.begun domid p p' ⟨now, rfl⟩ ⟨now', rfl⟩))

/-- **Starting a recording.** It is started in both runs, or in neither. -/
theorem uniform_tryRecording (host : String) (domid : Nat) :
    Uniform (ε := ε) c s uuid (SameRecording s uuid) (tryRecording s uuid host domid)
      (tryRecording s uuid host domid) := by
  refine uniform_bind _ (uniform_beginRecording host domid) fun res res' both => ?_
  cases both with
  | ok same => exact uniform_bind _ (uniform_log _ _ _ _) fun _ _ _ => uniform_done same
  | error e e' => exact uniform_bind _ (uniform_log _ _ _ _) fun _ _ _ => uniform_done (.kept none)

theorem uniform_stopRecording (r : Recording) :
    Uniform (ε := ε) c s uuid (fun _ _ => True) (stopRecording s uuid r)
      (stopRecording s uuid r) := by
  have removal : Uniform (ε := ε) c s uuid (fun _ _ => True) (removeIfEmpty r.path)
      (removeIfEmpty r.path) := uniform_of_unseen (unseen_removeIfEmpty _) (unseen_removeIfEmpty _)
  refine uniform_bind _ (uniform_log _ _ _ _) fun _ _ _ => ?_
  refine uniform_bind _ (uniform_of_ruled (asksOnly_embed (fun _ => trivial) _))
    fun res res' same => ?_
  subst same
  rcases res with e | _
  · exact uniform_bind _ (uniform_log _ _ _ _) fun _ _ _ => removal
  · exact removal

theorem uniform_release (w : Watch ε) :
    Uniform c s uuid Eq (w.release s uuid) (w.release s uuid) := by
  unfold Watch.release
  rcases w.recording with _ | r
  · exact uniform_done rfl
  · exact uniform_bind _ (uniform_stopRecording r) fun _ _ _ => uniform_done rfl

theorem uniform_record (w : Watch ε) (domid : Nat) :
    Uniform c s uuid (SameWatch s uuid) (w.record s uuid domid) (w.record s uuid domid) := by
  refine uniform_bind _ (uniform_of_ruled (asksOnly_place (fun _ => trivial) w))
    fun host host' same => ?_
  subst same
  exact uniform_bind _ (uniform_tryRecording host domid) fun r r' same =>
    uniform_done ⟨rfl, rfl, rfl, same⟩

theorem uniform_needsRecording (r : Option Recording) (domid : Option Nat) :
    Uniform (ε := ε) c s uuid (Both Eq) (needsRecording uuid r domid).run
      (needsRecording uuid r domid).run := by
  unfold needsRecording
  split
  · exact uniform_done (.ok rfl)
  refine uniform_try_bind Eq ?_ fun exited exited' same => ?_
  · exact (uniform_of_ruled (asksOnly_hasExited (fun _ => trivial) _)).mono fun _ _ => both_of_eq
  subst same
  dsimp only
  split
  · exact uniform_try_bind _ (uniform_lift (uniform_log _ _ _ _)) fun _ _ _ =>
      uniform_done (.ok rfl)
  · split
    · exact uniform_try_bind _ (uniform_lift (uniform_log _ _ _ _)) fun _ _ _ =>
        uniform_done (.ok rfl)
    · exact uniform_done (.ok rfl)

/-- **Reconciling a watch.** -/
theorem uniform_reconcile (w : Watch ε) (status : Status) :
    Uniform c s uuid (Both (Option.Rel (SameWatch s uuid))) (w.reconcile s uuid status).run
      (w.reconcile s uuid status).run := by
  unfold Watch.reconcile
  split
  · refine uniform_try_bind _ (uniform_lift (uniform_log _ _ _ _)) fun _ _ _ => ?_
    exact uniform_try_bind _ (uniform_lift (uniform_release w)) fun _ _ _ =>
      uniform_done (.ok .none)
  refine uniform_try_bind _ (uniform_needsRecording w.recording status.domid)
    fun stale stale' same => ?_
  subst same
  rcases stale with _ | _
  · exact uniform_done (.ok (.some (.refl w)))
  refine uniform_try_bind _ (uniform_lift (uniform_release w)) fun w₁ w₁' same => ?_
  subst same
  rcases status.domid with _ | domid
  · exact uniform_done (.ok (.some (.refl w₁)))
  · exact uniform_try_bind _ (uniform_lift (uniform_record w₁ domid)) fun _ _ same =>
      uniform_done (.ok (.some same))

end Testbed.Console
