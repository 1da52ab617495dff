/-
Module: AttachService.Proofs.Race.Queue
Purpose: In every race the queue holds what was accepted and not taken yet, oldest first.
Trusted boundary: none
Main exports: Race.Queued, Race.Queued.step, Race.queued_run
-/
import AttachService.Proofs.Race.Conservation

namespace AttachService.Race

/-!
Seen from outside, the chains are a queue of requests: `enlist` adds one at the end, `take`
removes the first one, and no other step is seen.
-/

variable {race after : Race} {m : Move} {free queue : List SlotId}

/-- What was accepted has been taken or is queued, in this order. -/
structure Queued (race : Race) : Prop where
  record : race.accepted.map (·.2) = race.taken ++ race.intake.chains.queued
  /-- The slot that is about to be queued holds the request of its producer. -/
  filled : ∀ {k : Nat} {request : Submission} {i : SlotId},
    race.holder = some (.producer k request (.filled i)) →
      (race.intake.chains.slot i).contents = request

namespace Queued

/-- A step that is not seen from outside. -/
theorem congr (queued : race.Queued) (accepted : after.accepted = race.accepted)
    (taken : after.taken = race.taken)
    (same : after.intake.chains.queued = race.intake.chains.queued)
    (filled : ∀ {k : Nat} {request : Submission} {i : SlotId},
      after.holder = some (.producer k request (.filled i)) →
        (after.intake.chains.slot i).contents = request) : after.Queued where
  record := by
    rw [accepted, taken, same]
    exact queued.record
  filled := filled

/-- A request that is accepted goes behind the others, and one that is taken is the first. -/
theorem step (queued : race.Queued) (accounted : race.Accounted free queue)
    (tenure : race.Tenure) (step : race.Step m after) : after.Queued := by
  have layout := accounted.layout
  have record := queued.record
  have filled := @queued.filled
  cases step with
  | arrive | sleep | pass | refuse | close | acquire | sendHome =>
      exact queued.congr rfl rfl rfl filled
  | enter | welcome | turnAway | announce | leave | lockToOpen | markReady | comeLate | lockToClose
  | markClosed | markUnready | withdraw | lockToTake | findNothing | depart | die =>
      exact queued.congr rfl rfl rfl (by simp)
  | overflow holds full => exact absurd full (accounted.announce?_ne_none holds)
  | reserve holds found =>
      rw [hands, holds] at layout
      obtain ⟨rest, -, -, same⟩ := layout.of_takeFree found
      exact queued.congr rfl rfl same (by simp)
  | fill holds =>
      rw [hands, holds] at layout
      obtain ⟨p, found, inside, rfl⟩ := tenure.known (by rw [insider, holds])
      have fits : p.request.Fits := tenure.fits found (.inr inside)
      refine queued.congr rfl rfl (Intake.queued_copyIn layout) ?_
      intro j other slot same
      cases same
      exact Chains.contents_fill_self race.intake.chains _ fits
  | @enlist k request i holds =>
      rw [hands, holds] at layout
      refine ⟨?_, by simp⟩
      have longer : (race.intake.chains.append i).queued
          = race.intake.chains.queued ++ [(race.intake.chains.slot i).contents] :=
        Chains.Layout.queued_append layout
      rw [filled holds] at longer
      show (race.accepted ++ [(k, request)]).map (·.2)
        = race.taken ++ (race.intake.chains.append i).queued
      rw [List.map_append, List.map_singleton, longer, record, List.append_assoc]
  | take holds found =>
      obtain ⟨rest, -, -, shorter⟩ := layout.of_takeHead found
      refine ⟨?_, by simp⟩
      rw [List.append_assoc, List.singleton_append, ← shorter]
      exact record
  | giveBack holds =>
      rw [hands, holds] at layout
      exact queued.congr rfl rfl (Intake.queued_vacate layout) (by simp)

end Queued

theorem queued_start (settings : Settings) : (start settings).Queued :=
  ⟨rfl, by simp [start]⟩

/-- At no moment is anything lost that was accepted, or there twice. -/
theorem queued_run (settings : Settings) (moves : List Move) :
    ((start settings).run moves).Queued :=
  start_induction (queued_start settings)
    (fun accounted tenure queued step => queued.step accounted tenure step) moves

end AttachService.Race
