/-
Module: AttachService.Proofs.Race.Rest
Purpose: What an intake is like while nobody holds its lock, whatever has been done to it.
Trusted boundary: none
Main exports: Race.settings_run, Race.Balanced.orderly, Race.orderly_run, Race.Idle,
  Race.Marked, Race.closed_eq_run
-/
import AttachService.Proofs.Intake.Orderly
import AttachService.Proofs.Race.Shutdown
import AttachService.Proofs.Race.Undisturbed

namespace AttachService.Race

variable {race after : Race} {m : Move}

/-- Nobody ever changes the settings. -/
theorem settings_step {settings : Settings} (same : race.intake.settings = settings)
    (step : race.Step m after) : after.intake.settings = settings := by
  cases step with
  | _ => exact same

/-- No party changes the settings. -/
theorem settings_run (settings : Settings) (moves : List Move) :
    ((start settings).run moves).intake.settings = settings :=
  run_preserves settings_step rfl moves

/-- While nobody holds the lock, a queued request has its unit, or a consumer has it. -/
theorem Balanced.mirror (balanced : race.Balanced) (unlocked : race.holder = none) :
    race.intake.pending.count + race.owed = race.intake.queuedCount := by
  obtain ⟨free, queue, accounted⟩ := balanced
  have mirror := accounted.mirror
  rw [early, unlocked, Option.elim_none, Nat.add_zero] at mirror
  rw [mirror, Intake.queuedCount, accounted.layout.queueChain_eq]

/-- While nobody holds the lock and no consumer is on its way to a request, the semaphore
counts what is queued. -/
theorem Balanced.orderly (balanced : race.Balanced) (unlocked : race.holder = none)
    (idle : race.owed = 0) : race.intake.Orderly race.lost := by
  have units := balanced.mirror unlocked
  obtain ⟨free, queue, accounted⟩ := balanced
  have layout := accounted.layout
  rw [hands_of_unlocked unlocked, List.nil_append] at layout
  rw [idle, Nat.add_zero, Intake.queuedCount, layout.queueChain_eq] at units
  exact Intake.orderly_of_layout layout units accounted.bound

/-- When nobody is at it, the intake is in order. -/
theorem orderly_run (settings : Settings) (moves : List Move)
    (unlocked : ((start settings).run moves).holder = none)
    (idle : ((start settings).run moves).owed = 0) :
    ((start settings).run moves).intake.Orderly ((start settings).run moves).lost :=
  (balanced_run settings moves).orderly unlocked idle

/-- A consumer that nobody overtakes takes a unit and the oldest request, and is at rest
again. -/
theorem takeNow_of_granted {pending : Semaphore} {request : Submission} {intake : Intake}
    (unlocked : race.holder = none)
    (unit : race.intake.pending.acquire = .granted pending)
    (taken : { race.intake with pending := pending }.takeQueued = some (request, intake)) :
    (race.move .acquire).takeNow
      = { race with intake := intake, taken := race.taken ++ [request] } := by
  have ask : race.move .acquire
      = { race with
          intake := { race.intake with pending := pending }
          owed := race.owed + 1 } := by
    rw [move, unit]
  rw [ask, takeNow_eq]
  · simp only [taken, Nat.add_sub_cancel]
  · exact unlocked
  · exact Nat.succ_ne_zero _

/-- A request can be submitted without a break. -/
theorem exists_submitted (race : Race) (request : Submission) (unlocked : race.holder = none) :
    ∃ moves, (race.run moves).intake = (race.intake.submit request).2
      ∧ (race.run moves).holder = none := by
  have gone := submit_undisturbed race request unlocked 0
  rw [press, ← run_cons] at gone
  exact ⟨_, gone.intake, gone.unlocked⟩

/-! ### Nothing to do -/

/-- Nobody is at the intake, producers are welcome, and all slots are free. -/
structure Idle (race : Race) : Prop where
  unlocked : race.holder = none
  ready : race.intake.ready = true
  free : race.intake.freeCount = Limits.slots

namespace Idle

/-- If all slots are free, none is queued, and none was lost. -/
theorem queuedCount_eq (idle : race.Idle) (balanced : race.Balanced) :
    race.intake.queuedCount = 0 ∧ race.lost = [] := by
  have total := balanced.total
  rw [idle.free, hands_of_unlocked idle.unlocked] at total
  exact ⟨by omega, List.eq_nil_of_length_eq_zero (by omega)⟩

/-- Where all slots are free, no consumer is on its way to a request, and none has died. -/
theorem orderly (idle : race.Idle) (balanced : race.Balanced) :
    race.intake.Orderly [] := by
  obtain ⟨nothing, whole⟩ := idle.queuedCount_eq balanced
  have units := balanced.mirror idle.unlocked
  rw [nothing] at units
  have orderly := balanced.orderly idle.unlocked (Nat.eq_zero_of_add_eq_zero_left units)
  rwa [whole] at orderly

/-- If all slots are free, there is no request in the queue. -/
theorem queued_eq (idle : race.Idle) (balanced : race.Balanced) :
    race.intake.chains.queued = [] := by
  have length := (idle.orderly balanced).length_queued
  rw [(idle.queuedCount_eq balanced).1] at length
  exact List.eq_nil_of_length_eq_zero length

/-- A lock is poisoned only with the loss of a slot. -/
theorem sane (idle : race.Idle) (balanced : race.Balanced) (grounded : race.Grounded) :
    race.intake.poisoned = false := by
  rw [← Bool.not_eq_true]
  intro poisoned
  exact grounded.poison poisoned (idle.queuedCount_eq balanced).2

end Idle

/-! ### Half of a shutdown -/

/-- Whoever has marked the intake closed still holds the lock, or has given it back since. -/
def Marked (race : Race) : Prop :=
  race.intake.closed = true →
    race.holder = some .withdrawer ∨ race.holder = some .withdrawn ∨ race.Withdrawn

namespace Marked

/-- A step of somebody who does not shut down. -/
theorem congr (marked : race.Marked) (closed : after.intake.closed = race.intake.closed)
    (outside : race.holder ≠ some .withdrawer ∧ race.holder ≠ some .withdrawn)
    (onward : race.Withdrawn → after.Withdrawn) : after.Marked := by
  intro shut
  rw [closed] at shut
  rcases marked shut with holds | holds | withdrawn
  · exact absurd holds outside.1
  · exact absurd holds outside.2
  · exact .inr (.inr (onward withdrawn))

/-- Who marks the intake closed goes on to withdraw it. -/
theorem step (marked : race.Marked) (step : race.Step m after) : after.Marked := by
  cases step with
  | arrive | sleep | pass | refuse | acquire | sendHome => exact marked
  | close => exact fun _ => .inr (.inr (.inr rfl))
  | markClosed => exact fun _ => .inl rfl
  | markUnready => exact fun _ => .inr (.inl rfl)
  | withdraw => exact fun _ => .inr (.inr (.inl (Nat.succ_pos _)))
  | enter _ _ holds | welcome holds | turnAway holds | reserve holds | overflow holds
  | announce holds | fill holds | enlist holds | leave holds | lockToOpen holds | markReady holds
  | comeLate holds | lockToClose holds | lockToTake holds | findNothing holds | take holds
  | giveBack holds | depart holds | die holds =>
      exact marked.congr rfl (by simp [holds]) id

end Marked

theorem marked_run (settings : Settings) (moves : List Move) :
    ((start settings).run moves).Marked := by
  apply run_preserves Marked.step
  intro closed
  cases closed

/-- Once everybody who shuts down is done, the semaphore is closed exactly if the intake is. -/
theorem closed_eq_run (settings : Settings) (moves : List Move)
    (unlocked : ((start settings).run moves).holder = none)
    (done : ((start settings).run moves).closing = 0) :
    ((start settings).run moves).intake.pending.closed
      = ((start settings).run moves).intake.closed := by
  have shut := shut_run settings moves
  have marked := marked_run settings moves
  generalize (start settings).run moves = race at *
  rw [Bool.eq_iff_iff]
  constructor
  · intro closed
    exact (shut.final (.inr closed)).1
  · intro closed
    rcases marked closed with holds | holds | beyond | closed
    · cases unlocked.symm.trans holds
    · cases unlocked.symm.trans holds
    · exact absurd done (Nat.ne_of_gt beyond)
    · exact closed

end AttachService.Race
