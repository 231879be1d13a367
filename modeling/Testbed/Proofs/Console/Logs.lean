import Testbed.Proofs.Console.Disk
import Testbed.Proofs.Console.Ledger
/-!
# The logs of a monitor

Logs are opened when recordings begin, and removed when they end or never began. `Keeps held p kept`
says of a program that it is careful with files and tidy: of the logs in `held`, and those that it
opens itself, the ones that may be empty in the end are in `kept`. Each operation has its triple of
this kind, from single requests up to the sections (`keeps_perform`); what the calls of a run have
among them is `Progress.logs`.

Main statement: `logs_kept`, wherever the calls of a run have come to rest, an empty log is that of
a recording under watch, and no byte of a log is ever lost.
-/
namespace Testbed.Console

open Program Disk

variable {ε α β : Type} {s : Settings.Console}

/-! ## Programs that keep logs -/

/-- Every run of a program removes only empty files, and leaves no file empty but those in
`kept`. -/
def Keeps (held : Set String) (p : Care ε α) (kept : α → Set String) : Prop :=
  ∀ t a, Runs p t a → Careful t ∧ Tidy held t (kept a)

theorem keeps_done {held : Set String} {kept : α → Set String} {a : α} (h : held ⊆ kept a) :
    Keeps (ε := ε) held (.done a) kept := by
  intro t b run
  obtain ⟨rfl, rfl⟩ := runs_done_iff.1 run
  refine ⟨fun told path a more split => ?_, ?_⟩
  · rcases told with _ | _ <;> cases split
  · exact (tidy_of_opened held ∅ fun _ none => (List.not_mem_nil none).elim).mono subset_rfl
      (by simpa using h)

theorem keeps_bind {held : Set String} {p : Care ε α} {f : α → Care ε β} {kept : β → Set String}
    (between : α → Set String) (hp : Keeps held p between)
    (hf : ∀ a, Keeps (between a) (f a) kept) : Keeps held (p >>= f) kept := by
  intro t b run
  obtain ⟨t₁, t₂, a, rfl, h₁, h₂⟩ := runs_bind.1 run
  obtain ⟨careful, tidy⟩ := hp t₁ a h₁
  obtain ⟨careful', tidy'⟩ := hf a t₂ b h₂
  exact ⟨careful.append careful', tidy.append tidy'⟩

theorem Keeps.frame {held : Set String} {p : Care ε α} {kept : α → Set String}
    (h : Keeps held p kept) (others : Set String) :
    Keeps (held ∪ others) p fun a => kept a ∪ others :=
  fun t a run => (h t a run).imp_right (·.frame others)

theorem Keeps.mono {held held' : Set String} {p : Care ε α} {kept kept' : α → Set String}
    (h : Keeps held p kept) (less : held' ⊆ held) (more : ∀ a, kept a ⊆ kept' a) :
    Keeps held' p kept' :=
  fun t a run => (h t a run).imp_right (·.mono less (more a))

/-- The logs in hand after a part that may have failed. -/
def orElse (kept : Except Trouble β → Set String) (between : α → Set String) :
    Except Trouble α → Set String
  | .ok a => between a
  | .error e => kept (.error e)

theorem keeps_try_bind {held : Set String} {x : RiskyCare ε α} {f : α → RiskyCare ε β}
    {kept : Except Trouble β → Set String} (between : α → Set String)
    (hx : Keeps held x.run (orElse kept between)) (hf : ∀ a, Keeps (between a) (f a).run kept) :
    Keeps held (x >>= f).run kept := by
  rw [ExceptT.run_bind]
  refine keeps_bind _ hx fun res => ?_
  rcases res with e | a
  · exact keeps_done subset_rfl
  · exact hf a

theorem keeps_lift {held : Set String} {p : Care ε α} {kept : Except Trouble α → Set String}
    (h : Keeps held p fun a => kept (.ok a)) :
    Keeps held (ExceptT.lift p : RiskyCare ε α).run kept :=
  keeps_bind _ h fun _ => keeps_done subset_rfl

/-! ## Programs that leave files alone -/

/-- A request that makes no file and removes none. -/
def Idle : Device.Request ε → Prop
  | .openLog _ | .removeFile _ => False
  | _ => True

theorem opened_of_idle {t : List (Exchange (Device.interface ε))} (h : ∀ e ∈ t, Idle e.request) :
    opened t = [] := by
  refine List.filterMap_eq_nil_iff.2 fun ⟨r, a⟩ he => ?_
  have idle := h _ he
  cases r with
  | openLog | removeFile => exact idle.elim
  | _ => rfl

theorem kept_of_idle {t : List (Exchange (Device.interface ε))} (h : ∀ e ∈ t, Idle e.request)
    (held : Set String) : Careful t ∧ Tidy held t held := by
  refine ⟨fun told path a more split => ?_, ?_⟩
  · subst split
    exact (h _ (List.mem_append_right _ (List.mem_cons_self ..))).elim
  · have tidy := tidy_of_opened held ∅ (t := t) (by rw [opened_of_idle h]; exact nofun)
    simpa using tidy

theorem keeps_of_idle {p : Care ε α} (h : AsksOnly (I := Device.interface ε) Idle p)
    (held : Set String) : Keeps held p fun _ => held :=
  fun _ _ run => kept_of_idle (asksOnly_of_runs run h) held

theorem idle_log (level : Log.Level) (text : String) :
    AsksOnly (I := Device.interface ε) Idle (Device.log level text) := asksOnly_ask trivial

theorem idle_needsRecording (uuid : String) (r : Option Recording) (domid : Option Nat) :
    AsksOnly (I := Device.interface ε) Idle (needsRecording uuid r domid).run := by
  unfold needsRecording
  split
  · trivial
  · refine asksOnly_try_bind (asksOnly_hasExited (fun _ => trivial) _) fun exited => ?_
    dsimp only
    split
    · exact asksOnly_try_bind (asksOnly_lift (idle_log _ _)) fun _ => trivial
    · split
      · exact asksOnly_try_bind (asksOnly_lift (idle_log _ _)) fun _ => trivial
      · trivial

/-! ## Recordings -/

def logOf (r : Option Recording) : Set String := {path | r.map (·.path) = some path}

@[simp] theorem logOf_none : logOf none = ∅ := Set.eq_empty_of_forall_notMem fun _ h => by cases h

@[simp] theorem logOf_some (r : Recording) : logOf (some r) = {r.path} := by
  ext path
  simp [logOf, eq_comm]

theorem keeps_openLog (path : String) :
    Keeps (ε := ε) ∅ (openLog path).run fun res => {other | res = .ok () ∧ other = path} := by
  intro t res run
  obtain ⟨a, rfl, ask⟩ := runs_mapError.1 run
  obtain rfl := runs_ask.1 ask
  refine ⟨fun told path a more split => ?_, ?_⟩
  · rcases told with _ | ⟨_, _ | _⟩ <;> cases split
  refine (tidy_of_opened ∅ {other | a = .ok () ∧ other = path} fun other h => ?_).mono subset_rfl ?_
  · rcases a with e | _
    · cases h
    · exact ⟨rfl, List.mem_singleton.1 h⟩
  · rintro other (none | ⟨rfl, rfl⟩)
    · exact none.elim
    · exact ⟨rfl, rfl⟩

/-- **Removing a log that nothing was written to.** The log is not there any more, or not empty. -/
theorem keeps_removeIfEmpty (path : String) :
    Keeps (ε := ε) {path} (removeIfEmpty path) fun _ => ∅ := by
  intro t a h
  unfold removeIfEmpty at h
  obtain ⟨_, t₂, size, rfl, look, h₂⟩ := runs_bind.1 h
  obtain rfl := runs_ask.1 look
  have looked (held : Set String) : Careful (ε := ε) [⟨.fileSize path, size⟩] ∧
      Tidy (ε := ε) held [⟨.fileSize path, size⟩] held := by
    refine kept_of_idle ?_ held
    rintro e (_ | ⟨_, _ | _⟩)
    trivial
  rcases size with e | n
  · obtain ⟨careful', tidy⟩ := keeps_of_idle (idle_log _ _) ∅ _ _ h₂
    exact ⟨(looked ∅).1.append careful', (tidy_look (by nofun)).append tidy⟩
  by_cases hn : n = 0
  · subst hn
    obtain ⟨_, t₄, removed, rfl, removal, h₄⟩ := runs_bind.1 h₂
    obtain rfl := runs_ask.1 removal
    have rest : Careful t₄ ∧ Tidy ∅ t₄ ∅ := by
      rcases removed with e | _
      · exact keeps_of_idle (idle_log _ _) ∅ _ _ h₄
      · obtain ⟨rfl, -⟩ := runs_pure_iff.1 h₄
        exact kept_of_idle (by simp) ∅
    exact ⟨(careful_emptied path removed).append rest.1,
      (looked {path}).2.append ((tidy_removal path removed).append rest.2)⟩
  · simp only [hn, ↓reduceIte] at h₂
    obtain ⟨rfl, -⟩ := runs_pure_iff.1 h₂
    rw [List.append_nil]
    exact ⟨(looked ∅).1, tidy_look fun h => hn (by cases h; rfl)⟩

theorem keeps_beginRecording (uuid host : String) (domid : Nat) :
    Keeps (ε := ε) ∅ (beginRecording s uuid host domid).run fun res => logOf res.toOption := by
  unfold beginRecording
  refine keeps_try_bind (fun _ => ∅) ?_ fun _ => ?_
  · exact (keeps_of_idle (asksOnly_makeDirs trivial) ∅).mono subset_rfl fun _ => Set.empty_subset _
  refine keeps_try_bind (fun _ => ∅) ?_ fun now => ?_
  · exact keeps_lift (keeps_of_idle (asksOnly_ask (r := .now) trivial) ∅)
  refine keeps_try_bind (fun _ => {pathIn s.logDir (logName host uuid now)}) ?_
    fun _ => ?_
  · refine (keeps_openLog _).mono subset_rfl fun res path h => ?_
    obtain ⟨rfl, rfl⟩ := h
    rfl
  refine keeps_try_bind (fun _ => {pathIn s.logDir (logName host uuid now)}) ?_
    fun answer => ?_
  · exact keeps_lift (keeps_of_idle (asksOnly_ask (by trivial)) _)
  rcases answer with failure | p
  · exact keeps_try_bind _ (keeps_lift (keeps_removeIfEmpty _)) fun _ =>
      keeps_done (Set.empty_subset _)
  · exact keeps_done (by simp [Except.toOption])

theorem keeps_tryRecording (uuid host : String) (domid : Nat) :
    Keeps (ε := ε) ∅ (tryRecording s uuid host domid) logOf := by
  refine keeps_bind _ (keeps_beginRecording uuid host domid) fun res => ?_
  rcases res with e | r
  · exact keeps_bind _ (keeps_of_idle (idle_log _ _) _) fun _ => keeps_done subset_rfl
  · exact keeps_bind _ (keeps_of_idle (idle_log _ _) _) fun _ => keeps_done subset_rfl

theorem keeps_stopRecording (uuid : String) (r : Recording) :
    Keeps (ε := ε) {r.path} (stopRecording s uuid r) fun _ => ∅ := by
  refine keeps_bind _ (keeps_of_idle (idle_log _ _) _) fun _ => ?_
  refine keeps_bind _ (keeps_of_idle (asksOnly_embed (fun _ => trivial) _) _) fun outcome => ?_
  rcases outcome with e | _
  · exact keeps_bind _ (keeps_of_idle (idle_log _ _) _) fun _ => keeps_removeIfEmpty r.path
  · exact keeps_removeIfEmpty r.path

/-! ## Watches -/

theorem keeps_record (uuid : String) (w : Watch ε) (domid : Nat) :
    Keeps ∅ (w.record s uuid domid) fun w' => logOf w'.recording :=
  keeps_bind _ (keeps_of_idle (asksOnly_place (fun _ => trivial) w) _) fun host =>
    keeps_bind _ (keeps_tryRecording uuid host domid) fun _ => keeps_done subset_rfl

theorem keeps_release (uuid : String) (w : Watch ε) :
    Keeps (logOf w.recording) (w.release s uuid) fun _ => ∅ := by
  unfold Watch.release
  rcases w.recording with _ | r
  · exact keeps_done (by simp)
  · rw [logOf_some]
    exact keeps_bind _ (keeps_stopRecording uuid r) fun _ => keeps_done subset_rfl

/-- The log that a watch has after it was reconciled. -/
def logAfter (w : Watch ε) : Except Trouble (Option (Watch ε)) → Set String
  | .ok outcome => logOf (outcome.bind (·.recording))
  | .error _ => logOf w.recording

/-- **Reconciling a watch.** -/
theorem keeps_reconcile (uuid : String) (w : Watch ε) (status : Status) :
    Keeps (logOf w.recording) (w.reconcile s uuid status).run (logAfter w) := by
  unfold Watch.reconcile
  split
  · refine keeps_try_bind (fun _ => logOf w.recording) ?_ fun _ => ?_
    · exact keeps_lift (keeps_of_idle (idle_log _ _) _)
    · exact keeps_try_bind _ (keeps_lift (keeps_release uuid w)) fun _ =>
        keeps_done (Set.empty_subset _)
  refine keeps_try_bind (fun _ => logOf w.recording) ?_ fun stale => ?_
  · refine (keeps_of_idle (idle_needsRecording uuid w.recording status.domid) _).mono subset_rfl
      fun res => ?_
    rcases res with _ | _ <;> exact subset_rfl
  rcases stale with _ | _
  · exact keeps_done subset_rfl
  refine keeps_try_bind (fun _ => ∅) (keeps_lift (keeps_release uuid w)) fun w' => ?_
  rcases status.domid with _ | domid
  · exact keeps_done (Set.empty_subset _)
  · exact keeps_try_bind (fun w' => logOf w'.recording)
      (keeps_lift (keeps_record uuid w' domid)) fun _ => keeps_done subset_rfl

namespace Monitor

/-! ## Sections -/

def State.logs (st : State ε) : Set String := {path | ∃ uuid, st.logPath uuid = some path}

def State.logsOfOthers (st : State ε) (uuid : String) : Set String :=
  {path | ∃ other, other ≠ uuid ∧ st.logPath other = some path}

def logsOf (rs : List (String × Recording)) : Set String := {path | ∃ r ∈ rs, r.2.path = path}

theorem logs_subset {st : State ε} {uuid : String} {w : Watch ε}
    (hw : st.watches.find? uuid = some w) :
    st.logs ⊆ logOf w.recording ∪ st.logsOfOthers uuid := by
  rintro path ⟨other, h⟩
  by_cases same : other = uuid
  · subst same
    have h : ((st.watches.find? other).bind (·.recording)).map (·.path) = some path := h
    rw [hw] at h
    exact .inl h
  · exact .inr ⟨other, same, h⟩

theorem subset_logs_resolve (st : State ε) (uuid : String) (outcome : Option (Watch ε)) :
    logOf (outcome.bind (·.recording)) ∪ st.logsOfOthers uuid ⊆ (st.resolve uuid outcome).logs := by
  rintro path (own | ⟨other, hother, h⟩)
  · refine ⟨uuid, ?_⟩
    rw [State.logPath, find?_resolve, if_pos rfl]
    exact own
  · exact ⟨other, by simpa [State.logPath, Ne.symm hother] using h⟩

theorem keeps_reconcileVisit {st : State ε} {visit : Visit ε} {w : Watch ε}
    (hw : st.watches.find? visit.uuid = some w) (status : Except Fault Status) :
    Keeps st.logs (reconcileVisit s st visit w status) State.logs := by
  have same : logOf w.recording ∪ st.logsOfOthers visit.uuid ⊆ st.logs := by
    have h := subset_logs_resolve st visit.uuid (some w)
    rwa [resolve_find? hw] at h
  unfold reconcileVisit
  rcases status with fault | status <;>
    refine keeps_bind (fun outcome => logAfter w outcome ∪ st.logsOfOthers visit.uuid) ?_
      fun outcome => ?_
  case error.refine_1 => exact keeps_done (logs_subset hw)
  case ok.refine_1 =>
    exact ((keeps_reconcile visit.uuid w status).frame _).mono (logs_subset hw) fun _ => subset_rfl
  all_goals
    rcases outcome with e | _ | w'
    · exact keeps_bind _ (keeps_of_idle (idle_log _ _) _) fun _ => keeps_done same
    · exact keeps_done (subset_logs_resolve st visit.uuid none)
    · exact keeps_done (subset_logs_resolve st visit.uuid (some w'))

/-- **Sections.** An empty log is under watch after a section, or was handed over by it. -/
theorem keeps_perform (st : State ε) (c : Section ε) :
    Keeps st.logs (c.perform s st) fun r => r.2.logs ∪ logsOf (handed (.locked c) r.1) := by
  have same : st.logs ⊆ st.logs ∪ logsOf [] := Set.subset_union_left
  cases c with
  | isWatched | list | takeWorker => exact keeps_done same
  | enter uuid subject host domid =>
    rcases hw : st.watches.find? uuid with _ | w
    · have absent : st.watches.contains uuid = false := Registry.contains_eq_false.2 hw
      simp only [Section.perform, absent, Bool.false_eq_true, ↓reduceIte]
      have others : st.logs ⊆ st.logsOfOthers uuid := by
        rintro path ⟨other, h⟩
        refine ⟨other, fun same => ?_, h⟩
        rw [State.logPath, same, hw] at h
        cases h
      have record := (keeps_record (s := s) uuid ⟨st.nextId, subject, host, none⟩ domid).frame
        (st.logsOfOthers uuid)
      refine keeps_bind _ (record.mono (Set.subset_union_of_subset_right others _)
        fun _ => subset_rfl) fun w => keeps_done ?_
      exact Set.subset_union_of_subset_left (subset_logs_resolve st uuid (some w)) _
    · have present : st.watches.contains uuid = true := by simp [Registry.contains, hw]
      simp only [Section.perform, present, ↓reduceIte]
      exact keeps_done same
  | leave uuid =>
    refine keeps_done ?_
    rintro path ⟨other, h⟩
    by_cases hother : other = uuid
    · subst hother
      obtain ⟨r, hr, rfl⟩ := Option.map_eq_some_iff.1 h
      exact .inr ⟨(other, r), by simp [handed, hr], rfl⟩
    · exact .inl ⟨other, by simpa [State.logPath, Ne.symm hother] using h⟩
  | settle visit status =>
    rcases hw : st.watches.find? visit.uuid with _ | w <;> simp only [Section.perform, hw]
    · exact keeps_done same
    split
    · exact keeps_bind _ (keeps_reconcileVisit hw status) fun _ =>
        keeps_done (Set.subset_union_left)
    · exact keeps_done same
  | startWorker =>
    simp only [Section.perform]
    split
    · exact keeps_done same
    refine keeps_bind _ (keeps_of_idle (asksOnly_ask (by trivial)) _) fun answer => ?_
    rcases answer with e | worker
    · exact keeps_bind _ (keeps_of_idle (idle_log _ _) _) fun _ => keeps_done same
    · exact keeps_done same
  | clear =>
    refine keeps_done ?_
    rintro path ⟨uuid, h⟩
    obtain ⟨r, hr, rfl⟩ := Option.map_eq_some_iff.1 h
    obtain ⟨w, hw, hr⟩ := Option.bind_eq_some_iff.1 hr
    refine .inr ⟨(uuid, r), ?_, rfl⟩
    exact List.mem_filterMap.2 ⟨(uuid, w), Registry.find?_eq_some.1 hw, by simp [hr]⟩

/-! ## Runs -/

/-- The logs of a monitor: those of its recordings, and those that calls have yet to stop. -/
def Progress.logs (p : Progress ε) : Set String :=
  p.state.logs ∪ {path | ∃ thread owed, Owes (p.calls thread) owed ∧ path ∈ logsOf owed}

theorem kept_of_serves {st after : State ε} {r : Request ε} {a : Answer ε r} {deeds : Deeds ε}
    (h : Serves s st r a deeds after) :
    Careful deeds ∧
      Tidy (st.logs ∪ logsOf (returned r)) deeds (after.logs ∪ logsOf (handed r a)) := by
  have nothing : logsOf [] = ∅ := by simp [logsOf]
  cases h with
  | locked run =>
    refine (keeps_perform st _ _ _ run).imp_right fun tidy => tidy.mono ?_ subset_rfl
    simp [returned, nothing]
  | @stop uuid r deeds run =>
    refine (keeps_stopRecording uuid r _ _ run).imp_right fun tidy =>
      (tidy.frame st.logs).mono ?_ ?_
    · rintro path (h | ⟨_, only, rfl⟩)
      · exact .inr h
      · obtain rfl := List.mem_singleton.1 only
        exact .inl rfl
    · simp
  | powerState | domid | join | log =>
    refine (kept_of_idle (t := []) (by simp) st.logs).imp_right fun tidy => tidy.mono ?_ ?_
    · simp [returned, nothing]
    · exact Set.subset_union_left

/-- **One step.** It is careful with files, and leaves no file empty that is not a log of the
monitor. -/
theorem kept_of_step {p q : Progress ε} {m : Move ε} (h : Step s p m q)
    (owes : ∀ thread, ∃ owed, Owes (p.calls thread) owed) :
    Careful m.deeds ∧ Tidy p.logs m.deeds q.logs := by
  cases h with
  | @start thread entry idle =>
    refine (kept_of_idle (t := []) (by simp) p.logs).imp_right fun tidy => tidy.mono subset_rfl ?_
    refine Set.union_subset_union_right _ ?_
    rintro path ⟨n, owed, hn, hpath⟩
    refine ⟨n, owed, ?_, hpath⟩
    by_cases own : n = thread
    · subst own
      rw [idle] at hn
      obtain rfl : owed = [] := hn
      simp [logsOf] at hpath
    · rwa [calls_setCall, if_neg own]
  | @go thread r next a deeds after asks serves =>
    have later {n : Nat} {owed : List (String × Recording)}
        (h : Owes (if n = thread then next a else p.calls n) owed) :
        logsOf owed ⊆ (({ p with state := after } : Progress ε).setCall thread (next a)).logs :=
      fun path hpath => .inr ⟨n, owed, h, hpath⟩
    obtain ⟨careful, tidy⟩ := kept_of_serves serves
    refine ⟨careful, (tidy.frame _).mono ?_ (Set.union_subset (Set.union_subset ?_ ?_) subset_rfl)⟩
    · rintro path (own | ⟨n, owed, hn, hpath⟩)
      · exact .inl (.inl own)
      by_cases same : n = thread
      · subst same
        rw [asks] at hn
        obtain ⟨rest, rfl, -, goesOn⟩ := hn
        obtain ⟨r', hr', rfl⟩ := hpath
        rcases List.mem_append.1 hr' with due | waiting
        · exact .inl (.inr ⟨r', due, rfl⟩)
        · exact .inr (later (by rw [if_pos rfl]; exact goesOn a)
            ⟨r', List.mem_append_left _ waiting, rfl⟩)
      · exact .inr (later (by rwa [if_neg same]) hpath)
    · exact Set.subset_union_left
    · obtain ⟨owed, howed⟩ := owes thread
      rw [asks] at howed
      obtain ⟨rest, -, -, goesOn⟩ := howed
      rintro path ⟨r', hr', rfl⟩
      exact later (by rw [if_pos rfl]; exact goesOn a) ⟨r', List.mem_append_right _ hr', rfl⟩

def deedsOf (moves : List (Move ε)) : Deeds ε := moves.flatMap (·.deeds)

theorem kept_of_steps {p q : Progress ε} {moves : List (Move ε)} (run : Steps s p moves q)
    (owes : ∀ thread, ∃ owed, Owes (p.calls thread) owed) :
    Careful (deedsOf moves) ∧ Tidy p.logs (deedsOf moves) q.logs := by
  induction run with
  | rest p => exact kept_of_idle (by simp [deedsOf]) p.logs
  | @move p q r m more step later ih =>
    have owes' (thread : Nat) : ∃ owed, Owes (q.calls thread) owed := by
      obtain ⟨owed, h⟩ := owes thread
      obtain ⟨owed', h', -⟩ := owes_of_steps (.move step (.rest q)) thread h
      exact ⟨owed', h'⟩
    obtain ⟨careful, tidy⟩ := kept_of_step step owes
    obtain ⟨careful', tidy'⟩ := ih owes'
    exact ⟨careful.append careful', tidy.append tidy'⟩

/-- Where the calls have come to rest, every log belongs to a recording under watch. -/
theorem logs_of_rest {p : Progress ε} (rest : p.AtRest) : p.logs = p.state.logs := by
  refine Set.union_eq_self_of_subset_right ?_
  rintro path ⟨thread, owed, howed, r, hr, -⟩
  rw [owes_nothing_of_rests howed (rest thread)] at hr
  cases hr

/-- **Logs.** Consoles write what they like while the calls of a monitor run, and everything may
fail but the operations on files that are there. Wherever the calls have come to rest, an empty file
is the log of a recording under watch, or was empty before and is none of the logs that the monitor
opened. What a file holds at any moment stays in it from then on, and what is removed is empty. -/
theorem logs_kept {q : Progress ε} {moves : List (Move ε)} (run : Steps s {} moves q) {d : Disk}
    {events : List (Event ε)} (course : Course d (deedsOf moves) events) :
    (q.AtRest → ∀ path, through d events path = some [] →
      (∃ uuid, q.state.logPath uuid = some path) ∨
        d path = some [] ∧ path ∉ opened (deedsOf moves)) ∧
    (∀ first last, events = first ++ last → ∀ path bytes, through d first path = some bytes →
      bytes ≠ [] → ∃ more, through d events path = some (bytes ++ more)) ∧
    ∀ first path a last, events = first ++ .deed ⟨.removeFile path, a⟩ :: last →
      through d first path = some [] := by
  obtain ⟨careful, tidy⟩ := kept_of_steps run fun _ => ⟨[], owes_done ()⟩
  refine ⟨fun rest path empty => ?_, fun first last split path bytes holds some_byte =>
    holds_of_careful careful course split holds some_byte,
    fun first path a last split => removed_empty careful course split⟩
  rw [logs_of_rest rest] at tidy
  exact (tidy d events course path empty).imp_right fun ⟨before, _, unopened⟩ => ⟨before, unopened⟩

def joined : List (Order Unit) :=
  readded ++ [.call 1 (.add "pc" () none), .go 1 {}, .go 1 {}, .go 1 { domid := .ok (some 9) },
    .go 1 { launch := .ok ⟨4, 103⟩ }, .go 1 {}]

def withLine (p : Process) (deeds : Deeds ε) : List (Event ε) :=
  deeds.flatMap fun e => match e with
    | ⟨.launch _ _ log, .ok q⟩ => if p = q then [.deed e, .written log [10]] else [.deed e]
    | _ => [.deed e]

theorem done_withLine (p : Process) (deeds : Deeds ε) :
    (withLine p deeds).filterMap Event.deed? = deeds := by
  induction deeds with
  | nil => rfl
  | cons e deeds ih =>
    have split : withLine p (e :: deeds) = withLine p [e] ++ withLine p deeds := by
      simp [withLine]
    rw [split, List.filterMap_append, ih]
    have single : (withLine p [e]).filterMap Event.deed? = [e] := by
      simp only [withLine, List.flatMap_singleton]
      split
      · split <;> rfl
      · rfl
    rw [single, List.singleton_append]

/-- A log that is opened again, by a uuid that is removed and added at once, still holds its line.
Another log is empty, and under watch. -/
theorem logs_kept_of_joined :
    let deeds := deedsOf (moves (obey {} {} joined).1)
    let d := through (fun _ => none) (withLine ⟨1, 100⟩ deeds)
    let log := fun uuid => "console_logs/host_" ++ uuid ++ "_20240131-235959.042.log"
    opened deeds = [log "vm", log "vm", log "pc"] ∧ d (log "vm") = some [10] ∧
      d (log "pc") = some [] ∧
      ∃ uuid, (obey {} {} joined).2.state.logPath uuid = some (log "pc") := by
  have course : Course (fun _ => none) (deedsOf (moves (obey {} {} joined).1))
      (withLine ⟨1, 100⟩ (deedsOf (moves (obey {} {} joined).1))) :=
    ⟨done_withLine _ _, by decide +kernel, by decide +kernel⟩
  have rest : (obey {} {} joined).2.AtRest :=
    atRest_of_steps (steps_obey {} {} joined) 2 (by decide +kernel) (by decide +kernel)
  refine ⟨by decide +kernel, by decide +kernel, by decide +kernel, ?_⟩
  exact ((logs_kept (steps_obey {} {} joined) course).1 rest _ (by decide +kernel)).resolve_right
    fun ⟨absent, _⟩ => by cases absent

end Monitor

end Testbed.Console
