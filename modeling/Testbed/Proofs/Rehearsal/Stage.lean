import Testbed.Proofs.Rehearsal.Threads
/-!
# Calls on stage

A call on stage may be interrupted by others whenever a subject is asked for its state, these again
by others, and threads may go on with their passes in between. All of it is one interleaving of the
calls of several threads, so whatever holds of the runs of a monitor is seen in every rehearsal.

Main statements: `makes_of_interpret`, one call, step by step; `follows_of_interpret`, a call in the
middle of others; `steps_of_directed`, a whole rehearsal.
-/
namespace Testbed.Rehearsal.Stage

open Program World Console.Monitor
open Console (Call)

variable {α β : Type} {s s' s'' : Stage} {m n : Nat}

/-! ## Calls -/

/-- Whenever it is done, a monitor goes on in a run of its own. -/
def Lets (n depth : Nat) (act : Scene α) : Prop :=
  ∀ s : Stage, s.Sound → n < s.posts.size → Follows n depth s (act.run s).2

theorem answered {depth : Nat} {meanwhile : String → Scene Unit} {r : Request Subject}
    {a : Answer Subject r} (lets : ∀ uuid, Lets n depth (meanwhile uuid)) (sound : s.Sound)
    (observed : n < s.posts.size) (posted : m < s.posts.size)
    (done : (answerCall m meanwhile r).run s = (a, s')) :
    ∃ mid, Follows n depth s mid ∧ Serving m r mid a s' := by
  cases r with
  | locked c => exact ⟨s, follows_refl sound, serving_perform sound posted done⟩
  | powerState subject =>
    have frame : Frame n s ((play (record (.powerState (uuidOf subject s.world)))).run s).2 :=
      frame_play (hires_record _) sound
    have others := lets (uuidOf subject s.world) _ frame.sound (frame.size.symm ▸ observed)
    exact ⟨_, (frame.follows rfl).trans others,
      serving_play (hires_askState subject) others.sound done (.powerState subject a)⟩
  | domid subject =>
    exact ⟨s, follows_refl sound,
      serving_play (hires_askDomid subject) sound done (.domid subject a)⟩
  | stop uuid r => exact ⟨s, follows_refl sound, serving_stop sound done⟩
  | join worker timeout =>
    obtain rfl : _ = s' := congrArg Prod.snd done
    have joined : Follows n depth s ((join worker).run s).2 := follows_join sound
    exact ⟨_, joined, .refl joined.sound, [], .join worker timeout a⟩
  | log entry =>
    exact ⟨s, follows_refl sound, serving_play (hires_recordLog entry) sound done (.log entry)⟩

/-- The callers, one of which is in another call. -/
def instead (callers : Nat → Call Subject Unit) (depth : Nat) (call : Call Subject Unit) (k : Nat) :
    Call Subject Unit :=
  if k = depth then call else callers k

theorem setCall_instead (frame : Frame n s s') (callers : Nat → Call Subject Unit) (depth : Nat)
    (call rest : Call Subject Unit) :
    ({ s.progress n (instead callers depth call) with
        state := (s'.post n).monitor } : Progress Subject).setCall (2 * depth) rest =
      s'.progress n (instead callers depth rest) := by
  unfold Progress.setCall progress
  congr 1
  funext k
  by_cases own : k = 2 * depth
  · subst k
    simp [instead]
  · by_cases even : k % 2 = 0
    · have other : k / 2 ≠ depth := by omega
      simp [own, even, instead, other]
    · simp [own, even, frame.left]

/-- A call is made from one moment to another by the caller that has the number `depth`. -/
structure Makes (n depth : Nat) (s : Stage) (call : Call Subject α) (a : α) (s' : Stage) :
    Prop extends Kept n s s' where
  steps : ∀ callers, (∀ k, depth < k → callers k = .done ()) → ∀ rest : α → Call Subject Unit,
    ∃ moves, Steps (s.post n).settings (s.progress n (instead callers depth (call >>= rest))) moves
      (s'.progress n (instead callers depth (rest a)))

theorem makes_of_interpret {depth : Nat} {meanwhile : String → Scene Unit} {call : Call Subject α}
    {a : α} (lets : ∀ uuid, Lets n (depth + 1) (meanwhile uuid)) (sound : s.Sound)
    (posted : n < s.posts.size)
    (done : (call.interpret (answerCall n meanwhile)).run s = (a, s')) :
    Makes n depth s call a s' := by
  induction call generalizing s with
  | done b =>
    obtain ⟨rfl, rfl⟩ := Prod.mk.inj done
    exact ⟨.refl sound, fun _ _ _ => ⟨[], .rest _⟩⟩
  | ask r next ih =>
    rcases did : (answerCall n meanwhile r).run s with ⟨b, s₁⟩
    obtain ⟨mid, follows, serving⟩ := answered lets sound posted posted did
    have kept := follows.toKept.trans (serving.kept n)
    have later := ih b kept.sound (Nat.lt_of_lt_of_le posted kept.size)
      ((run_bind_of did).symm.trans done)
    refine ⟨kept.trans later.toKept, fun callers idle rest => ?_⟩
    obtain ⟨deeds, serves⟩ := serving.serves
    let now : Call Subject Unit := .ask r next >>= rest
    -- what others do before the answer, the step itself, and the rest of the call
    obtain ⟨before, waits⟩ := follows.steps (instead callers depth now) fun k beyond => by
      simp [instead, Nat.ne_of_gt beyond, idle k beyond]
    obtain ⟨after, goesOn⟩ := later.steps callers idle rest
    rw [follows.settings] at serves
    rw [kept.settings, ← setCall_instead serving.toFrame callers depth now] at goesOn
    have asks : (mid.progress n (instead callers depth now)).calls (2 * depth) =
        .ask r fun b => next b >>= rest := by
      simp [progress, instead, now]
    exact ⟨_, steps_append waits (.move (.go asks serves) goesOn)⟩

theorem instead_self {callers : Nat → Call Subject Unit} {depth : Nat} {call : Call Subject Unit}
    (h : callers depth = call) : instead callers depth call = callers := by
  funext k
  unfold instead
  split
  · subst k
    exact h.symm
  · rfl

/-- A call that threads may begin, by a caller that is idle before and after it. -/
theorem Makes.follows {depth : Nat} {call : Call Subject α} {a : α}
    (makes : Makes n depth s call a s') (sound : s.Sound) (entry : Entry Subject)
    (begins : entry.call (s.post n).settings = call >>= fun _ => .done ()) :
    Follows n depth s s' where
  toKept := makes.toKept
  steps callers idle := by
    have free := idle depth (Nat.le_refl _)
    obtain ⟨moves, steps⟩ := makes.steps callers (fun k beyond => idle k (Nat.le_of_lt beyond))
      fun _ => .done ()
    rw [instead_self free, ← begins,
      ← setCall_instead (.refl sound) callers depth (.done ()), instead_self free] at steps
    have now : (s.progress n callers).calls (2 * depth) = .done () := by simp [progress, free]
    exact ⟨_, .move (.start entry now) steps⟩

/-- A monitor does not notice the calls of another, but for what is done in the middle of them. -/
theorem follows_of_interpret_other {depth : Nat} {meanwhile : String → Scene Unit}
    {call : Call Subject α} {a : α} (lets : ∀ uuid, Lets n depth (meanwhile uuid))
    (sound : s.Sound) (observed : n < s.posts.size) (posted : m < s.posts.size) (other : n ≠ m)
    (done : (call.interpret (answerCall m meanwhile)).run s = (a, s')) : Follows n depth s s' := by
  induction call generalizing s with
  | done b =>
    obtain ⟨rfl, rfl⟩ := Prod.mk.inj done
    exact follows_refl sound
  | ask r next ih =>
    rcases did : (answerCall m meanwhile r).run s with ⟨b, s₁⟩
    obtain ⟨mid, follows, serving⟩ := answered lets sound observed posted did
    have first := follows.trans (serving.toFrame.follows (serving.others n other))
    exact first.trans (ih b first.sound (Nat.lt_of_lt_of_le observed first.size)
      (Nat.lt_of_lt_of_le posted first.size) ((run_bind_of did).symm.trans done))

/-- **A call on stage**, in the middle of others and with others in its middle. -/
theorem follows_of_interpret {depth : Nat} {meanwhile : String → Scene Unit} {call : Call Subject α}
    {a : α} (lets : ∀ uuid, Lets n (depth + 1) (meanwhile uuid)) (sound : s.Sound)
    (observed : n < s.posts.size) (posted : m < s.posts.size) (entry : Entry Subject)
    (begins : entry.call (s.post m).settings = call >>= fun _ => .done ())
    (done : (call.interpret (answerCall m meanwhile)).run s = (a, s')) : Follows n depth s s' := by
  by_cases mine : n = m
  · subst m
    exact (makes_of_interpret lets sound posted done).follows sound entry begins
  · have fewer (uuid : String) : Lets n depth (meanwhile uuid) := fun s sound observed =>
      (lets uuid s sound observed).fewer
    exact follows_of_interpret_other fewer sound observed posted mine done

/-! ## Whoever directs the rehearsal -/

theorem lets_bind {depth : Nat} {p : Scene α} {f : α → Scene β} (hp : Lets n depth p)
    (hf : ∀ a, Lets n depth (f a)) : Lets n depth (p >>= f) := fun s sound observed =>
  have first := hp s sound observed
  first.trans (hf _ _ first.sound (Nat.lt_of_lt_of_le observed first.size))

theorem lets_pure {depth : Nat} (a : α) : Lets n depth (pure a) :=
  fun _ sound _ => follows_refl sound

theorem lets_wakeAll {depth : Nat} : Lets n depth wakeAll := fun _ sound _ => follows_wakeAll sound

theorem lets_await {depth : Nat} (condition : Stage → Bool) (rounds : Nat) :
    Lets n depth (await condition rounds) := by
  induction rounds with
  | zero => exact fun s sound _ => follows_refl sound
  | succ rounds ih =>
    intro s sound observed
    change Follows n depth s ((if condition s then _ else _ : Scene Bool).run s).2
    split
    · exact follows_refl sound
    · exact lets_bind lets_wakeAll (fun _ => ih) s sound observed

theorem follows_engaged {depth : Nat} (sound : s.Sound) (engaged : List Nat) :
    Follows n depth s { s with engaged } :=
  ⟨⟨rfl, Nat.le_refl _, Nat.le_refl _, ⟨sound.idle, sound.posted, sound.charged⟩⟩,
    fun _ _ => ⟨[], .rest _⟩⟩

section

variable {depth : Nat} {meanwhile : String → Scene Unit}
  (lets : ∀ uuid, Lets n (depth + 1) (meanwhile uuid))

include lets

theorem follows_release (sound : s.Sound) (observed : n < s.posts.size)
    (posted : m < s.posts.size) : Follows n depth s ((release m meanwhile).run s).2 := by
  change Follows n depth s
    ((if s.charge = some m || s.engaged.contains m then _ else _ : Scene Unit).run s).2
  split
  · exact follows_refl sound
  · exact follows_of_interpret lets sound observed posted .shutdown (bind_done _).symm rfl

/-- **Calls of the monitor in charge.** -/
theorem lets_run {call : Settings.Console → Call Subject α}
    (begins : ∀ settings, ∃ entry : Entry Subject,
      entry.call settings = call settings >>= fun _ => .done ()) :
    Lets n depth (run meanwhile call) := by
  intro s sound observed
  have posted : s.charge.getD 0 < s.posts.size := by
    rcases charged : s.charge with _ | m
    · exact Nat.lt_of_le_of_lt (Nat.zero_le _) observed
    · exact sound.charged m charged
  have engages : Follows n depth s { s with engaged := s.charge.getD 0 :: s.engaged } :=
    follows_engaged sound _
  obtain ⟨entry, begins⟩ := begins (s.post (s.charge.getD 0)).settings
  rcases did : ((call (s.post (s.charge.getD 0)).settings).interpret
    (answerCall (s.charge.getD 0) meanwhile)).run
      { s with engaged := s.charge.getD 0 :: s.engaged } with ⟨a, s₁⟩
  have calls := engages.trans
    (follows_of_interpret lets engages.sound observed posted entry begins did)
  have done := calls.trans (follows_engaged calls.sound s.engaged)
  have last := follows_release (m := s.charge.getD 0) lets done.sound
    (Nat.lt_of_lt_of_le observed done.size) (Nat.lt_of_lt_of_le posted done.size)
  let leaves (a : α) : Scene α := do
    modify fun after => { after with engaged := s.engaged }
    release (s.charge.getD 0) meanwhile
    return a
  have all : (run meanwhile call).run s = (leaves a).run s₁ := run_bind_of (f := leaves) did
  rw [all]
  exact done.trans last

end

/-! ## A whole rehearsal -/

/-- A stage on which a monitor has just been put in charge. -/
theorem sound_opening (world : World) (p : Post) :
    ({ world, posts := #[p], charge := some 0 } : Stage).Sound where
  idle _ _ := rfl
  posted _ := Nat.zero_lt_one
  charged _ charged := Option.some.inj charged ▸ Nat.zero_lt_one

/-- **A rehearsal from the beginning.** The monitor goes through one of its runs, and at the end no
caller is in a call. -/
theorem steps_of_directed {script : Scene α} (lets : Lets n 0 script) (sound : s.Sound)
    (observed : n < s.posts.size) (new : (s.post n).monitor = {})
    (idle : ∀ id, s.left n id = .done ()) :
    ∃ moves, Steps (s.post n).settings {} moves
      ((script.run s).2.progress n fun _ => .done ()) := by
  have start : s.progress n (fun _ => .done ()) = {} := by
    simp only [progress, new, idle, ite_self]
  rw [← start]
  exact (lets s sound observed).steps _ fun _ _ => rfl

end Testbed.Rehearsal.Stage
