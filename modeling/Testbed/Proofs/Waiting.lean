import Testbed.Proofs.Runs
import Testbed.Wait
/-!
# Waits

A wait tries its condition, and pauses, until it is over. Main statements: `asksOnly_awaitFallible`,
nothing is requested in a wait but what its condition requests, and entries for the log and pauses;
`runs_awaitFallible_at_once`, a wait is over if its condition is met at the first try.
-/
namespace Testbed.Wait

open Program

variable {I : Interface} [Interface.Embeds Wait.interface I] {ε : Type}

theorem asksOnly_tryWithin {kind : I.Request → Prop} {w : Wait} {onTimeout : Timeout → ε}
    {condition : ExceptT ε (Program I) Bool} (tries : condition.run.AsksOnly kind)
    (sleeps : ∀ d, ((sleep d).embed : Program I Unit).AsksOnly kind) (budget : Duration) :
    (w.tryWithin onTimeout condition budget).run.AsksOnly kind := by
  induction hn : budget.nanos using Nat.strongRecOn generalizing budget with
  | ind n ih =>
    rw [tryWithin]
    refine asksOnly_try_bind tries fun value => ?_
    split
    · trivial
    split
    · trivial
    · refine asksOnly_try_bind (asksOnly_lift (sleeps _)) fun _ => ih _ ?_ _ rfl
      have := w.pause_pos
      simp only [Duration.less] at *
      omega

theorem asksOnly_awaitFallible {kind : I.Request → Prop} {w : Wait} {onTimeout : Timeout → ε}
    {condition : ExceptT ε (Program I) Bool} (tries : condition.run.AsksOnly kind)
    (sleeps : ∀ d, ((sleep d).embed : Program I Unit).AsksOnly kind)
    (logs : ∀ entry, ((log entry).embed : Program I Unit).AsksOnly kind) :
    (w.awaitFallible onTimeout condition).run.AsksOnly kind := by
  unfold awaitFallible
  split
  · exact asksOnly_try_bind (asksOnly_lift (logs _)) fun _ => asksOnly_tryWithin tries sleeps _
  · exact asksOnly_tryWithin tries sleeps _

/-- A wait is over at the first try that meets its condition. -/
theorem runs_tryWithin_at_once {w : Wait} {onTimeout : Timeout → ε}
    {condition : ExceptT ε (Program I) Bool} {t : List (Exchange I)}
    (met : Runs condition.run t (.ok w.expected)) (budget : Duration) :
    Runs (w.tryWithin onTimeout condition budget).run t (.ok ()) := by
  rw [tryWithin]
  refine runs_try_bind.2 (.inr ⟨t, [], _, by simp, met, ?_⟩)
  rw [if_pos rfl]
  exact runs_try_pure.2 ⟨rfl, rfl⟩

theorem runs_awaitFallible_at_once {w : Wait} {onTimeout : Timeout → ε}
    {condition : ExceptT ε (Program I) Bool} {t : List (Exchange I)} {text : String}
    (announced : w.message = some text) (met : Runs condition.run t (.ok w.expected))
    {said : List (Exchange I)}
    (logged : Runs ((log ⟨.info, .wait, text⟩).embed : Program I Unit) said ()) :
    Runs (w.awaitFallible onTimeout condition).run (said ++ t) (.ok ()) := by
  unfold awaitFallible
  rw [announced]
  exact runs_lift_bind.2 ⟨said, t, (), rfl, logged, runs_tryWithin_at_once met _⟩

end Testbed.Wait
