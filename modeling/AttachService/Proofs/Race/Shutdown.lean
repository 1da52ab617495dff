/-
Module: AttachService.Proofs.Race.Shutdown
Purpose: The flags, the lock and the semaphore while an intake is shut down.
Trusted boundary: none
Main exports: Race.Withdrawn, Race.Shut, Race.Shut.step, Race.shut_run
-/
import AttachService.Proofs.Race.Order

namespace AttachService

/-- The producer has found itself welcome, and has no answer yet. -/
def Stage.welcomed : Stage → Bool
  | .welcome | .reserved _ | .announced _ | .filled _ => true
  | .entered | .leaving _ => false

namespace Race

variable {race after : Race} {m : Move} {free queue : List SlotId}

/-! ### The two flags -/

/-- Somebody who shuts down has given the lock back: he is about to close the semaphore, or
has closed it. -/
def Withdrawn (race : Race) : Prop := 0 < race.closing ∨ race.intake.pending.closed = true

/-- How the flags, the lock and the semaphore go together while the intake is shut down. -/
structure Shut (race : Race) : Prop where
  calm : race.holder ≠ some .withdrawer → race.intake.closed = true → race.intake.ready = false
  marked : race.holder = some .withdrawer ∨ race.holder = some .withdrawn →
    race.intake.closed = true
  final : race.Withdrawn → race.intake.closed = true ∧ race.intake.ready = false
  welcome : ∀ {k : Nat} {request : Submission} {stage : Stage},
    race.holder = some (.producer k request stage) → stage.welcomed = true →
      race.intake.closed = false

namespace Shut

/-- A step that leaves the flags alone. -/
theorem congr (shut : race.Shut) (closed : after.intake.closed = race.intake.closed)
    (ready : after.intake.ready = race.intake.ready) (gone : after.Withdrawn → race.Withdrawn)
    (stays : race.holder = some .withdrawer → after.holder = some .withdrawer)
    (marked : after.holder = some .withdrawer ∨ after.holder = some .withdrawn →
      race.intake.closed = true)
    (welcome : ∀ {k : Nat} {request : Submission} {stage : Stage},
      after.holder = some (.producer k request stage) → stage.welcomed = true →
        race.intake.closed = false) : after.Shut where
  calm other := by
    rw [closed, ready]
    exact shut.calm fun holds => other (stays holds)
  marked holds := by
    rw [closed]
    exact marked holds
  final withdrawn := by
    rw [closed, ready]
    exact shut.final (gone withdrawn)
  welcome holds early := by
    rw [closed]
    exact welcome holds early

/-- No step gets the flags, the lock and the semaphore out of step with each other. -/
theorem step (shut : race.Shut) (accounted : race.Accounted free queue)
    (step : race.Step m after) : after.Shut := by
  have marked := shut.marked
  have welcome := @shut.welcome
  cases step with
  | arrive | sleep | pass | refuse | acquire | sendHome =>
      exact shut.congr rfl rfl id id marked welcome
  | close left => exact shut.congr rfl rfl (fun _ => .inl (by omega)) id marked welcome
  | enter _ _ unlocked | lockToOpen unlocked | lockToClose unlocked | lockToTake unlocked =>
      exact shut.congr rfl rfl id (by simp [unlocked]) (by simp) (by simp [Stage.welcomed])
  | welcome holds ready =>
      -- The flags go together while a producer holds the lock, and it sees the intake ready.
      refine shut.congr rfl rfl id (by simp [holds]) (by simp) fun _ _ => ?_
      rw [← Bool.not_eq_true]
      intro closed
      have unready := shut.calm (by simp [holds]) closed
      rw [ready] at unready
      cases unready
  | turnAway holds | enlist holds | leave holds | comeLate holds | findNothing holds | take holds
  | giveBack holds | depart holds | die holds =>
      exact shut.congr rfl rfl id (by simp [holds]) (by simp) (by simp [Stage.welcomed])
  | overflow holds full => exact absurd full (accounted.announce?_ne_none holds)
  | reserve holds | announce holds | fill holds =>
      exact shut.congr rfl rfl id (by simp [holds]) (by simp) fun _ _ => welcome holds rfl
  | markReady holds opened =>
      refine ⟨?_, by simp, ?_, by simp⟩
      · intro _ closed
        cases opened.symm.trans closed
      · intro withdrawn
        cases opened.symm.trans (shut.final withdrawn).1
  | markClosed =>
      exact ⟨by simp, fun _ => rfl, fun withdrawn => ⟨rfl, (shut.final withdrawn).2⟩, by simp⟩
  | markUnready holds =>
      have closed := marked (.inl holds)
      exact ⟨fun _ _ => rfl, fun _ => closed, fun _ => ⟨closed, rfl⟩, by simp⟩
  | withdraw holds =>
      have closed := marked (.inr holds)
      have unready := shut.calm (by simp [holds]) closed
      exact ⟨fun _ _ => unready, by simp, fun _ => ⟨closed, unready⟩, by simp⟩

end Shut

theorem shut_start (settings : Settings) : (start settings).Shut :=
  ⟨fun _ _ => rfl, by simp [start], by simp [start, Withdrawn, Intake.new, Semaphore.new],
    by simp [start]⟩

/-- At every moment the flags, the lock and the semaphore agree. -/
theorem shut_run (settings : Settings) (moves : List Move) :
    ((start settings).run moves).Shut :=
  start_induction (shut_start settings)
    (fun accounted _ shut step => shut.step accounted step) moves

end Race

end AttachService
