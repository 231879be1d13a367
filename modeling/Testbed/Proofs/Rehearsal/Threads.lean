import Testbed.Console.Service
import Testbed.Proofs.Rehearsal.World
/-!
# Threads on stage

What is done for a monitor on stage is what a thread of its own may do: a section is performed at
once, questions are asked in the world, and a pass that stands still is the call that is left of it.
Other monitors do not notice it (`Frame`). In the runs of a monitor the callers have the even
numbers here, the first of them being the one that all others interrupt, and the threads of the
passes the odd ones.

Main statements: `serving_perform`, a section is served as it may be; `follows_putThread`, what a
thread does; `follows_wakeAll`, the passes.
-/
namespace Testbed.Rehearsal.Stage

open Program World Console.Monitor
open Console (Call)

variable {α β : Type} {s s' s'' : Stage} {m n : Nat}

/-! ## What there is on stage -/

/-- What is left of a pass that a thread makes for a monitor. -/
def left (s : Stage) (n id : Nat) : Call Subject Unit :=
  if (s.thread id).post = n then (s.thread id).pending.getD (.done ()) else .done ()

/-- A monitor and the calls that it is in. -/
def progress (s : Stage) (n : Nat) (callers : Nat → Call Subject Unit) : Progress Subject where
  state := (s.post n).monitor
  calls k := if k % 2 = 0 then callers (k / 2) else s.left n (k / 2)

/-- Threads make passes once they were started, and for monitors that there are. -/
structure Sound (s : Stage) : Prop where
  idle : ∀ id, s.world.threads ≤ id → (s.thread id).pending = none
  posted : ∀ id, (s.thread id).post < s.posts.size
  charged : ∀ m, s.charge = some m → m < s.posts.size

/-- What a step that is made for monitor `m` leaves as it is. -/
structure Frame (m : Nat) (s s' : Stage) : Prop where
  others : ∀ n, n ≠ m → s'.post n = s.post n
  settings : (s'.post m).settings = (s.post m).settings
  size : s'.posts.size = s.posts.size
  left : ∀ n id, s'.left n id = s.left n id
  threads : s.world.threads ≤ s'.world.threads
  sound : s'.Sound

theorem Frame.refl (sound : s.Sound) : Frame m s s :=
  ⟨fun _ _ => rfl, rfl, rfl, fun _ _ => rfl, Nat.le_refl _, sound⟩

theorem Frame.trans (first : Frame m s s') (second : Frame m s' s'') : Frame m s s'' where
  others n other := (second.others n other).trans (first.others n other)
  settings := second.settings.trans first.settings
  size := second.size.trans first.size
  left n id := (second.left n id).trans (first.left n id)
  threads := Nat.le_trans first.threads second.threads
  sound := second.sound

/-! ## The steps of a call -/

theorem frame_play {p : Play α} (hires : Keeps Hires p) (sound : s.Sound) :
    Frame m s ((play p).run s).2 where
  others _ _ := rfl
  settings := rfl
  size := rfl
  left _ _ := rfl
  threads := hires s.world
  sound := ⟨fun id more => sound.idle id (Nat.le_trans (hires s.world) more), sound.posted,
    sound.charged⟩

/-- A step of a call on stage is one that its request can be served with. -/
structure Serving (m : Nat) (r : Request Subject) (s : Stage) (a : Answer Subject r) (s' : Stage) :
    Prop extends Frame m s s' where
  serves : ∃ deeds, Serves (s.post m).settings (s.post m).monitor r a deeds (s'.post m).monitor

/-- What is left once a section was performed in a world that has become another. -/
def afterSection (s : Stage) (m : Nat) (monitor : State Subject) (world : World) : Stage :=
  let started := (List.range world.threads).drop s.world.threads
  { s with
    world
    posts := s.posts.modify m fun p => { p with monitor }
    threads := started.map (fun id => { id, post := m }) ++ s.threads }

theorem run_perform {c : Section Subject} :
    (perform m c).run s =
      let did := ((c.perform (s.post m).settings (s.post m).monitor).interpret
        (answerDevice (s.post m).launcher)).run s.world
      (did.1.1, s.afterSection m did.1.2 did.2) := rfl

theorem post_afterSection (posted : m < s.posts.size) {monitor : State Subject} {world : World} :
    (s.afterSection m monitor world).post n =
      if m = n then { s.post n with monitor } else s.post n := by
  unfold post afterSection
  rw [Array.getElem?_modify]
  split
  · subst n
    simp [posted]
  · rfl

theorem le_of_mem_drop_range {i j k : Nat} (h : i ∈ (List.range k).drop j) : j ≤ i := by
  obtain ⟨d, hd, rfl⟩ := List.mem_drop_iff_getElem.1 h
  simp

/-- A thread that was there is not changed by those that are started. -/
theorem thread_afterSection (s : Stage) (m : Nat) (monitor : State Subject) (world : World)
    (id : Nat) :
    (s.afterSection m monitor world).thread id = s.thread id ∨
      s.world.threads ≤ id ∧ (s.afterSection m monitor world).thread id = { id, post := m } := by
  simp only [thread, afterSection, List.find?_append, List.find?_map]
  rcases found : ((List.range world.threads).drop s.world.threads).find?
    ((fun t : Thread => decide (t.id = id)) ∘ fun id => { id, post := m }) with _ | new
  · exact .inl (by simp)
  · obtain rfl : new = id := by simpa using List.find?_some found
    exact .inr ⟨le_of_mem_drop_range (List.mem_of_find?_eq_some found), by simp⟩

theorem frame_afterSection (sound : s.Sound) (posted : m < s.posts.size) {monitor : State Subject}
    {world : World} (more : s.world.threads ≤ world.threads) :
    Frame m s (s.afterSection m monitor world) where
  others n other := by rw [post_afterSection posted, if_neg (Ne.symm other)]
  settings := by rw [post_afterSection posted, if_pos rfl]
  size := by simp [afterSection]
  left n id := by
    unfold left
    rcases thread_afterSection s m monitor world id with
      same | ⟨beyond, started⟩
    · rw [same]
    · simp [started, sound.idle id beyond]
  threads := more
  sound := by
    have size : (s.afterSection m monitor world).posts.size = s.posts.size := by
      simp [afterSection]
    refine ⟨fun id beyond => ?_, fun id => ?_, size ▸ sound.charged⟩ <;>
      rcases thread_afterSection s m monitor world id with
        same | ⟨-, started⟩
    · rw [same]
      exact sound.idle id (Nat.le_trans more beyond)
    · rw [started]
    · rw [same, size]
      exact sound.posted id
    · rw [started, size]
      exact posted

theorem serving_perform (sound : s.Sound) (posted : m < s.posts.size) {c : Section Subject}
    {a : c.Answer} (done : (perform m c).run s = (a, s')) :
    Serving m (.locked c) s a s' := by
  rcases hdid : ((c.perform (s.post m).settings (s.post m).monitor).interpret
    (answerDevice (s.post m).launcher)).run s.world with ⟨⟨b, monitor⟩, world⟩
  rw [run_perform, hdid] at done
  obtain ⟨rfl, rfl⟩ := Prod.mk.inj done
  obtain ⟨deeds, runs, served⟩ := interpret_eq_iff.1 hdid
  have more : s.world.threads ≤ world.threads :=
    served_preserves (fun w => s.world.threads ≤ w.threads)
      (fun r w so => Nat.le_trans so (hires_answerDevice _ r w)) served (Nat.le_refl _)
  refine ⟨frame_afterSection sound posted more, deeds, ?_⟩
  rw [post_afterSection posted, if_pos rfl]
  exact .locked runs

theorem serving_stop (sound : s.Sound) {uuid : String} {r : Console.Recording} {a : Unit}
    (done : (stop m uuid r).run s = (a, s')) : Serving m (.stop uuid r) s a s' := by
  obtain rfl : _ = s' := congrArg Prod.snd done
  obtain ⟨deeds, runs, -⟩ := interpret_eq_iff.1
    (rfl : ((Console.stopRecording (s.post m).settings uuid r).interpret
      (answerDevice (s.post m).launcher)).run s.world = _)
  have frame : Frame m s ((play ((Console.stopRecording (s.post m).settings uuid r).interpret
      (answerDevice (s.post m).launcher))).run s).2 :=
    frame_play (keeps_interpret lasting_hires (hires_answerDevice _) _) sound
  exact ⟨frame, deeds, .stop runs⟩

/-- What is found out in the world does nothing to a monitor. -/
theorem serving_play {p : Play α} (hires : Keeps Hires p) (sound : s.Sound) {r : Request Subject}
    {a : Answer Subject r} {b : α} (done : (play p).run s = (b, s'))
    (still : Serves (s.post m).settings (s.post m).monitor r a [] (s.post m).monitor) :
    Serving m r s a s' := by
  obtain rfl : _ = s' := congrArg Prod.snd done
  exact ⟨frame_play hires sound, [], still⟩

/-! ## What is done of a call -/

/-- A call goes on from one moment to another, and something is left of it. -/
structure GoesOn (m : Nat) (s : Stage) (call : Call Subject Unit) (s' : Stage)
    (rest : Call Subject Unit) : Prop extends Frame m s s' where
  steps : ∀ (p : Progress Subject) (thread : Nat), p.state = (s.post m).monitor →
    p.calls thread = call → ∃ moves, Steps (s.post m).settings p moves
      ({ p with state := (s'.post m).monitor }.setCall thread rest)

theorem setCall_self {p : Progress Subject} {thread : Nat} {call : Call Subject Unit}
    (h : p.calls thread = call) : p.setCall thread call = p := by
  unfold Progress.setCall
  congr 1
  funext k
  split
  · subst k
    exact h.symm
  · rfl

theorem setCall_setCall (p : Progress Subject) (state : State Subject) (thread : Nat)
    (call rest : Call Subject Unit) :
    { p.setCall thread call with state }.setCall thread rest =
      { p with state }.setCall thread rest := by
  unfold Progress.setCall
  congr 1
  funext k
  by_cases own : k = thread <;> simp [own]

theorem goesOn_refl (sound : s.Sound) (call : Call Subject Unit) : GoesOn m s call s call where
  toFrame := .refl sound
  steps p thread state here := by
    refine ⟨[], ?_⟩
    have same : ({ p with state := (s.post m).monitor } : Progress Subject) = p := by rw [← state]
    rw [same, setCall_self here]
    exact .rest p

theorem GoesOn.ask {r : Request Subject} {a : Answer Subject r}
    {next : Answer Subject r → Call Subject Unit} {rest : Call Subject Unit}
    (first : Serving m r s a s') (later : GoesOn m s' (next a) s'' rest) :
    GoesOn m s (.ask r next) s'' rest where
  toFrame := first.toFrame.trans later.toFrame
  steps p thread state here := by
    obtain ⟨deeds, serves⟩ := first.serves
    rw [← state] at serves
    obtain ⟨moves, steps⟩ := later.steps _ thread (state_setCall _ thread (next a))
      (if_pos rfl : ({ p with state := (s'.post m).monitor }.setCall thread (next a)).calls
        thread = next a)
    rw [setCall_setCall, first.settings] at steps
    exact ⟨_, .move (.go here serves) steps⟩

theorem run_bind_of {x : Scene α} {f : α → Scene β} {a : α} (h : x.run s = (a, s')) :
    (x >>= f).run s = (f a).run s' := by
  rw [StateT.run_bind, h]
  rfl

/-- A pass goes on as far as it can. -/
theorem goesOn_advance (call : Call Subject Unit) {rest : Option (Call Subject Unit)}
    (sound : s.Sound) (posted : m < s.posts.size) (done : (advance m call).run s = (rest, s')) :
    GoesOn m s call s' (rest.getD (.done ())) := by
  induction call generalizing s with
  | done a =>
    obtain ⟨rfl, rfl⟩ := Prod.mk.inj done
    exact goesOn_refl sound _
  | ask r next ih =>
    have goes {a : Answer Subject r} {s₁ : Stage} (first : Serving m r s a s₁)
        (later : (advance m (next a)).run s₁ = (rest, s')) :
        GoesOn m s (.ask r next) s' (rest.getD (.done ())) :=
      .ask first (ih a first.sound (first.size.symm ▸ posted) later)
    cases r with
    | locked c =>
      rcases did : (perform m c).run s with ⟨a, s₁⟩
      exact goes (serving_perform sound posted did) ((run_bind_of did).symm.trans done)
    | powerState subject =>
      change (if isWithheld s subject then _ else _ : Scene _).run s = _ at done
      by_cases withheld : isWithheld s subject <;> simp only [withheld, if_true] at done
      · obtain ⟨rfl, rfl⟩ := Prod.mk.inj done
        exact goesOn_refl sound _
      · let asks : Play (Except Fault PowerState) := do
          record (.powerState (uuidOf subject s.world))
          askState subject
        rcases did : (play asks).run s with ⟨a, s₁⟩
        have hires : Keeps Hires asks :=
          keeps_bind lasting_hires (hires_record _) fun _ => hires_askState subject
        have later : (advance m (next a)).run s₁ = (rest, s') :=
          (run_bind_of (f := fun a => advance m (next a)) did).symm.trans done
        exact goes (serving_play hires sound did (.powerState subject a)) later
    | domid subject =>
      change (if isWithheld s subject then _ else _ : Scene _).run s = _ at done
      by_cases withheld : isWithheld s subject <;> simp only [withheld, if_true] at done
      · obtain ⟨rfl, rfl⟩ := Prod.mk.inj done
        exact goesOn_refl sound _
      · rcases did : (play (askDomid subject)).run s with ⟨a, s₁⟩
        exact goes (serving_play (hires_askDomid subject) sound did (.domid subject a))
          ((run_bind_of did).symm.trans done)
    | stop uuid r =>
      rcases did : (stop m uuid r).run s with ⟨a, s₁⟩
      exact goes (serving_stop sound did) ((run_bind_of did).symm.trans done)
    | join worker timeout =>
      exact goes ⟨.refl sound, [], .join worker timeout true⟩ done
    | log entry =>
      rcases did : (play (recordLog entry)).run s with ⟨a, s₁⟩
      exact goes (serving_play (hires_recordLog entry) sound did (.log entry))
        ((run_bind_of did).symm.trans done)

/-! ## Threads -/

/-- What stays, or only grows, from one moment to another. -/
structure Kept (n : Nat) (s s' : Stage) : Prop where
  settings : (s'.post n).settings = (s.post n).settings
  size : s.posts.size ≤ s'.posts.size
  threads : s.world.threads ≤ s'.world.threads
  sound : s'.Sound

theorem Kept.refl (sound : s.Sound) : Kept n s s := ⟨rfl, Nat.le_refl _, Nat.le_refl _, sound⟩

theorem Kept.trans (first : Kept n s s') (second : Kept n s' s'') : Kept n s s'' where
  settings := second.settings.trans first.settings
  size := Nat.le_trans first.size second.size
  threads := Nat.le_trans first.threads second.threads
  sound := second.sound

theorem Frame.kept (frame : Frame m s s') (n : Nat) : Kept n s s' where
  settings := by
    by_cases mine : n = m
    · subst n
      exact frame.settings
    · rw [frame.others n mine]
  size := Nat.le_of_eq frame.size.symm
  threads := frame.threads
  sound := frame.sound

/-- A monitor on stage has gone through a run in which the callers from `depth` on may have made
calls. Those before them are in the middle of theirs. -/
structure Follows (n depth : Nat) (s s' : Stage) : Prop extends Kept n s s' where
  steps : ∀ callers, (∀ k, depth ≤ k → callers k = .done ()) →
    ∃ moves, Steps (s.post n).settings (s.progress n callers) moves (s'.progress n callers)

theorem follows_refl {depth : Nat} (sound : s.Sound) : Follows n depth s s :=
  ⟨.refl sound, fun _ _ => ⟨[], .rest _⟩⟩

theorem Follows.trans {depth : Nat} (first : Follows n depth s s')
    (second : Follows n depth s' s'') : Follows n depth s s'' where
  toKept := first.toKept.trans second.toKept
  steps callers idle := by
    obtain ⟨before, steps⟩ := first.steps callers idle
    obtain ⟨after, more⟩ := second.steps callers idle
    rw [first.settings] at more
    exact ⟨_, steps_append steps more⟩

/-- Fewer callers may be in the middle of a call. -/
theorem Follows.fewer {depth : Nat} (follows : Follows n (depth + 1) s s') :
    Follows n depth s s' :=
  { follows with
    steps := fun callers idle =>
      follows.steps callers fun k beyond => idle k (Nat.le_of_succ_le beyond) }

theorem Frame.progress (frame : Frame m s s') (same : s'.post n = s.post n)
    (callers : Nat → Call Subject Unit) : s'.progress n callers = s.progress n callers := by
  simp only [Stage.progress, same, frame.left]

/-- A monitor does not notice what is done for another. -/
theorem Frame.follows {depth : Nat} (frame : Frame m s s') (same : s'.post n = s.post n) :
    Follows n depth s s' where
  toKept := frame.kept n
  steps callers _ := ⟨[], by rw [frame.progress same]; exact .rest _⟩

def putThread (s : Stage) (t : Thread) : Stage :=
  { s with threads := t :: s.threads.filter (·.id ≠ t.id) }

theorem thread_putThread (t : Thread) (id : Nat) :
    (s.putThread t).thread id = if id = t.id then t else s.thread id := by
  unfold thread putThread
  rw [List.find?_cons]
  by_cases own : t.id = id
  · simp [own]
  · have other : ¬id = t.id := fun same => own same.symm
    simp only [own, other, decide_false, if_false, List.find?_filter]
    congr 2
    funext u
    by_cases mine : u.id = id <;> simp [mine, other]

theorem id_thread (s : Stage) (id : Nat) : (s.thread id).id = id := by
  unfold thread
  rcases found : s.threads.find? (·.id = id) with _ | t <;> rw [found]
  · rfl
  · simpa using List.find?_some found

theorem sound_putThread (sound : s.Sound) {t : Thread} (posted : t.post < s.posts.size)
    (started : t.pending = none ∨ t.id < s.world.threads) : (s.putThread t).Sound := by
  refine ⟨fun id beyond => ?_, fun id => ?_, sound.charged⟩ <;> rw [thread_putThread] <;> split
  · subst id
    exact started.resolve_right (Nat.not_lt.2 beyond)
  · exact sound.idle id beyond
  · exact posted
  · exact sound.posted id

theorem left_putThread (t : Thread) (n id : Nat) :
    (s.putThread t).left n id =
      if id = t.id then if t.post = n then t.pending.getD (.done ()) else .done ()
      else s.left n id := by
  unfold left
  rw [thread_putThread]
  split <;> rfl

/-- What a thread has done of a pass for a monitor is done by a thread of its own. -/
theorem progress_putThread {t : Thread} (frame : Frame t.post s s')
    (callers : Nat → Call Subject Unit) :
    ({ s.progress t.post callers with
        state := (s'.post t.post).monitor } : Progress Subject).setCall (2 * t.id + 1)
          (t.pending.getD (.done ())) = (s'.putThread t).progress t.post callers := by
  unfold Progress.setCall progress
  congr 1
  funext k
  by_cases own : k = 2 * t.id + 1
  · subst k
    have half : (2 * t.id + 1) / 2 = t.id := by omega
    simp [left_putThread, half]
  · by_cases even : k % 2 = 0
    · simp [own, even]
    · have other : k / 2 ≠ t.id := by omega
      simp [own, even, left_putThread, other, frame.left]

/-- A monitor does not notice what a thread has done for another. -/
theorem progress_putThread_other {t : Thread} (frame : Frame t.post s s') (other : n ≠ t.post)
    (posted : t.post = (s.thread t.id).post) (callers : Nat → Call Subject Unit) :
    (s'.putThread t).progress n callers = s.progress n callers := by
  have same : (s'.putThread t).post n = s.post n := frame.others n other
  unfold progress
  rw [same]
  congr 1
  funext k
  split
  · rfl
  rw [left_putThread]
  split
  · rename_i own
    rw [own, if_neg (Ne.symm other), left, ← posted, if_neg (Ne.symm other)]
  · exact frame.left n _

/-- **A thread on stage.** It goes on with what is left of its pass, or begins the next one. -/
theorem follows_putThread {depth : Nat} {t : Thread} (sound : s.Sound) {call : Call Subject Unit}
    (posted : t.post = (s.thread t.id).post)
    (begins : s.left t.post t.id = call ∨
      s.left t.post t.id = .done () ∧ call = Console.Monitor.pass)
    (goes : GoesOn t.post s call s' (t.pending.getD (.done ())))
    (started : t.pending = none ∨ t.id < s.world.threads) :
    Follows n depth s (s'.putThread t) where
  toKept := by
    have kept := goes.kept n
    refine ⟨kept.settings, kept.size, kept.threads, sound_putThread goes.sound ?_ ?_⟩
    · rw [goes.size, posted]
      exact sound.posted t.id
    · exact started.imp_right fun h => Nat.lt_of_lt_of_le h goes.threads
  steps callers _ := by
    by_cases mine : n = t.post
    · subst n
      have now : (s.progress t.post callers).calls (2 * t.id + 1) = s.left t.post t.id := by
        have half : (2 * t.id + 1) / 2 = t.id := by omega
        simp [progress, half]
      have begun : ∃ moves, Steps (s.post t.post).settings (s.progress t.post callers) moves
          ((s.progress t.post callers).setCall (2 * t.id + 1) call) := by
        rcases begins with going | ⟨idle, rfl⟩
        · rw [setCall_self (now.trans going)]
          exact ⟨[], .rest _⟩
        · exact ⟨_, .move (.start .pass (now.trans idle)) (.rest _)⟩
      obtain ⟨before, begun⟩ := begun
      obtain ⟨after, steps⟩ := goes.steps ((s.progress t.post callers).setCall (2 * t.id + 1) call)
        (2 * t.id + 1) rfl (by simp)
      rw [setCall_setCall, progress_putThread goes.toFrame] at steps
      exact ⟨_, steps_append begun steps⟩
    · exact ⟨[], by rw [progress_putThread_other goes.toFrame mine posted]; exact .rest _⟩

theorem follows_wake {depth id : Nat} (sound : s.Sound) (started : id < s.world.threads) :
    Follows n depth s ((wake id).run s).2 := by
  rcases begins : (s.thread id).pending <|> onWake (s.thread id).told with _ | call
  · have still : (wake id).run s = ((), s) := by
      rw [wake, StateT.run_bind, StateT.run_get, pure_bind]
      dsimp only
      rw [begins]
      rfl
    rw [still]
    exact follows_refl sound
  · rcases did : (advance (s.thread id).post call).run s with ⟨rest, s₁⟩
    have woken : (wake id).run s = ((), s₁.putThread { s.thread id with pending := rest }) := by
      rw [wake, StateT.run_bind, StateT.run_get, pure_bind]
      dsimp only
      rw [begins]
      exact run_bind_of did
    rw [woken]
    have own := s.id_thread id
    refine follows_putThread sound (by rw [own]) ?_
      (goesOn_advance call sound (sound.posted id) did) (.inr (by rwa [own]))
    simp only [left, own, if_true]
    rcases pending : (s.thread id).pending with _ | going <;> rw [pending] at begins
    · exact .inr ⟨rfl, (onWake_eq_some begins).2⟩
    · exact .inl (Option.some.inj begins)

theorem follows_join {depth id : Nat} (sound : s.Sound) :
    Follows n depth s ((join id).run s).2 := by
  have own := s.id_thread id
  rcases pending : (s.thread id).pending with _ | call
  · have joined : (join id).run s =
        (true, s.putThread { s.thread id with told := true, pending := none }) := by
      simp only [join, StateT.run_bind, StateT.run_get, pure_bind, pending]
      rfl
    rw [joined]
    exact follows_putThread sound (by rw [own]) (.inl rfl)
      (by simp only [left, own, pending, if_true]; exact goesOn_refl sound _) (.inl rfl)
  · rcases did : (advance (s.thread id).post call).run s with ⟨rest, s₁⟩
    have joined : (join id).run s =
        (rest.isNone, s₁.putThread { s.thread id with told := true, pending := rest }) := by
      simp only [join, StateT.run_bind, StateT.run_get, pure_bind, pending, did]
      rfl
    rw [joined]
    have started : id < s.world.threads := by
      refine Nat.lt_of_not_le fun beyond => ?_
      cases pending.symm.trans (sound.idle id beyond)
    refine follows_putThread sound (by rw [own]) (.inl ?_)
      (goesOn_advance call sound (sound.posted id) did) (.inr (by rwa [own]))
    simp [left, own, pending]

/-- **The passes on stage.** All threads may go on with their passes, or begin the next. -/
theorem follows_wakeAll {depth : Nat} (sound : s.Sound) :
    Follows n depth s ((wakeAll).run s).2 := by
  let wakeEach (ids : List Nat) : Scene Unit := forIn ids () fun id _ => do
    wake id
    pure (.yield ())
  have each (ids : List Nat) : ∀ s : Stage, s.Sound → (∀ id ∈ ids, id < s.world.threads) →
      Follows n depth s ((wakeEach ids).run s).2 := by
    induction ids with
    | nil => exact fun s sound _ => follows_refl sound
    | cons id ids ih =>
      intro s sound started
      have first : Follows n depth s ((wake id).run s).2 :=
        follows_wake sound (started id (by simp))
      unfold wakeEach
      rw [List.forIn_cons]
      exact first.trans (ih _ first.sound fun other h =>
        Nat.lt_of_lt_of_le (started other (by simp [h])) first.threads)
  exact each _ s sound fun id h => List.mem_range.1 h

end Testbed.Rehearsal.Stage
