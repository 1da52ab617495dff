/-
Module: AttachService.Proofs.Race.Undisturbed
Purpose: A party that nobody overtakes does to the intake what `Intake` says in one piece.
Trusted boundary: none
Main exports: Race.openUp_eq, Race.withdrawNow_close, Race.takeNow_eq, Race.dieNow_eq,
  Race.submit_undisturbed
-/
import AttachService.Proofs.Race.Tenure

namespace AttachService.Race

variable {race : Race} {k : Nat} {p : Producer}

/-! ### Parties without a number -/

theorem lock_of_unlocked (unlocked : race.holder = none) (holder : Holder) :
    race.lock holder = { race with holder := some holder } := by
  simp [lock, unlocked]

/-- Making the intake ready, step by step. -/
theorem openUp_eq (unlocked : race.holder = none) :
    race.openUp = { race with intake := race.intake.markReady } := by
  simp [openUp, move, lock_of_unlocked unlocked, carryOn, unlocked]

/-- Withdrawing it, step by step. -/
theorem withdrawNow_eq (unlocked : race.holder = none) :
    race.withdrawNow
      = { race with intake := race.intake.withdraw, closing := race.closing + 1 } := by
  simp [withdrawNow, move, lock_of_unlocked unlocked, carryOn, unlocked, Intake.withdraw]

/-- The lock and the semaphore together are a whole shutdown. -/
theorem withdrawNow_close (unlocked : race.holder = none) :
    race.withdrawNow.move .close = { race with intake := race.intake.shutDown } := by
  simp [withdrawNow_eq unlocked, move, Intake.shutDown]

/-- A consumer with a unit takes what is queued first, if anything is. -/
theorem takeNow_eq (unlocked : race.holder = none) (unit : race.owed ≠ 0) :
    race.takeNow =
      match race.intake.takeQueued with
      | none => { race with owed := race.owed - 1 }
      | some (request, intake) =>
          { race with
            intake := intake
            owed := race.owed - 1
            taken := race.taken ++ [request] } := by
  cases found : race.intake.pull? with
  | none =>
      simp [takeNow, move, unit, lock_of_unlocked unlocked, carryOn, found, Intake.takeQueued,
        unlocked]
  | some pulled =>
      simp [takeNow, move, unit, lock_of_unlocked unlocked, carryOn, found, Intake.takeQueued,
        unlocked]

/-- A consumer that dies with what is queued first in its hands leaves the intake as
`Intake.dieHolding` does. -/
theorem dieNow_eq (unlocked : race.holder = none) (unit : race.owed ≠ 0) {i : SlotId}
    {request : Submission} (found : race.intake.dieHolding.1 = some (i, request)) :
    race.dieNow =
      { race with
        intake := race.intake.dieHolding.2
        owed := race.owed - 1
        lost := race.lost ++ [i]
        taken := race.taken ++ [request] } := by
  cases pulled : race.intake.pull? with
  | none => simp [Intake.dieHolding, pulled] at found
  | some _ =>
      simp only [Intake.dieHolding, pulled, Option.some.injEq, Prod.mk.injEq] at found
      obtain ⟨rfl, rfl⟩ := found
      simp [dieNow, move, unit, lock_of_unlocked unlocked, carryOn, die, pulled, Intake.dieHolding,
        unlocked]

/-! ### Producers -/

/-- Producer `p` with number `k` is gone with this answer, and has left the intake so. -/
structure Gone (race : Race) (k : Nat) (p : Producer) (outcome : Except Refusal Unit × Intake) :
    Prop where
  intake : race.intake = outcome.2
  told : race.producers[k]? = some { p with progress := .answered outcome.1 }
  unlocked : race.holder = none

/-- Let producer `k` take so many steps. -/
def press (race : Race) (k n : Nat) : Race := race.run (List.replicate n (.proceed k))

theorem press_succ (found : race.producers[k]? = some p) (n : Nat) :
    race.press k (n + 1) = (race.proceed k p).press k n := by
  rw [press, List.replicate_succ, run_cons, move, found]
  rfl

/-- How far the producer had come before does not matter any more. -/
theorem Gone.of_progress {progress : Progress} {outcome : Except Refusal Unit × Intake}
    (gone : race.Gone k { p with progress := progress } outcome) : race.Gone k p outcome :=
  ⟨gone.intake, gone.told, gone.unlocked⟩

/-- Whoever is gone stays so. -/
theorem Gone.press {outcome : Except Refusal Unit × Intake} (gone : race.Gone k p outcome)
    (n : Nat) : (race.press k n).Gone k p outcome := by
  induction n with
  | zero => exact gone
  | succ n ih =>
      rw [press_succ gone.told]
      exact ih

/-- Producer `p` with number `k` holds the lock. -/
structure Within (race : Race) (k : Nat) (p : Producer) (stage : Stage) : Prop where
  found : race.producers[k]? = some p
  inside : p.progress = .inside
  holds : race.holder = some (.producer k p.request stage)

namespace Within

variable {stage : Stage} {i : SlotId}

theorem press_succ (within : race.Within k p stage) (n : Nat) :
    race.press k (n + 1) = (race.handle k p.request stage).press k n := by
  rw [Race.press_succ within.found]
  simp [proceed, within.inside, within.holds]

/-- A producer under the lock that has its answer is gone with it. -/
theorem gone_of_leaving {answer : Except Refusal Unit}
    (within : race.Within k p (.leaving answer)) (n : Nat) :
    (race.press k (n + 1)).Gone k p (answer, race.intake) := by
  have gone : (race.handle k p.request (.leaving answer)).Gone k p (answer, race.intake) :=
    ⟨rfl, getElem?_advance_self within.found, rfl⟩
  rw [within.press_succ]
  exact gone.press n

/-- A producer at this stage has one step more to go than at the one after it, and the same is
true of those before. -/
theorem gone_of_filled (within : race.Within k p (.filled i)) (n : Nat) :
    (race.press k (n + 2)).Gone k p (.ok (), race.intake.enlist i) := by
  rw [within.press_succ]
  apply gone_of_leaving
  exact ⟨within.found, within.inside, rfl⟩

theorem gone_of_announced (within : race.Within k p (.announced i)) (n : Nat) :
    (race.press k (n + 3)).Gone k p (.ok (), (race.intake.copyIn i p.request).enlist i) := by
  rw [within.press_succ]
  apply gone_of_filled
  exact ⟨within.found, within.inside, rfl⟩

/-- A slot that was reserved is given back only if nothing can be announced. -/
theorem gone_of_reserved (within : race.Within k p (.reserved i)) (n : Nat) :
    (race.press k (n + 4)).Gone k p
      (match race.intake.announce? with
      | none => (.error .broken, race.intake.vacate i)
      | some announced => (.ok (), (announced.copyIn i p.request).enlist i)) := by
  rw [within.press_succ]
  cases announced : race.intake.announce? with
  | none =>
      simp only [handle, announced]
      apply gone_of_leaving
      exact ⟨within.found, within.inside, rfl⟩
  | some intake =>
      simp only [handle, announced]
      apply gone_of_announced
      exact ⟨within.found, within.inside, rfl⟩

/-- What `Intake.accept` does once readiness has been checked again. -/
theorem gone_of_welcome (within : race.Within k p .welcome) (n : Nat) :
    (race.press k (n + 5)).Gone k p
      (match race.intake.reserve? with
      | none => (.error .exhausted, race.intake)
      | some (i, reserved) =>
          match reserved.announce? with
          | none => (.error .broken, reserved.vacate i)
          | some announced => (.ok (), (announced.copyIn i p.request).enlist i)) := by
  rw [within.press_succ]
  cases reserved : race.intake.reserve? with
  | none =>
      simp only [handle, reserved]
      apply gone_of_leaving
      exact ⟨within.found, within.inside, rfl⟩
  | some pair =>
      obtain ⟨i, intake⟩ := pair
      simp only [handle, reserved]
      apply gone_of_reserved
      exact ⟨within.found, within.inside, rfl⟩

/-- A producer that has just got the lock does what `Intake.accept` does. -/
theorem gone_of_entered (within : race.Within k p .entered) (n : Nat) :
    (race.press k (n + 6)).Gone k p (race.intake.accept p.request) := by
  rw [within.press_succ]
  by_cases ready : race.intake.ready = true
  · have welcome : (race.handle k p.request .entered).Within k p .welcome := by
      simp only [handle, if_pos ready]
      exact ⟨within.found, within.inside, rfl⟩
    have gone := welcome.gone_of_welcome n
    simp only [handle, if_pos ready] at gone ⊢
    rw [Intake.accept, if_neg (not_not_intro ready)]
    exact gone
  · simp only [handle, if_neg ready, Intake.accept, if_pos ready]
    apply gone_of_leaving
    exact ⟨within.found, within.inside, rfl⟩

/-- A producer that holds the lock gives it back, if it is let. -/
theorem exists_gone (within : race.Within k p stage) :
    ∃ n outcome, (race.press k n).Gone k p outcome := by
  cases stage with
  | entered => exact ⟨_, _, within.gone_of_entered 0⟩
  | welcome => exact ⟨_, _, within.gone_of_welcome 0⟩
  | reserved i => exact ⟨_, _, within.gone_of_reserved 0⟩
  | announced i => exact ⟨_, _, within.gone_of_announced 0⟩
  | filled i => exact ⟨_, _, within.gone_of_filled 0⟩
  | leaving answer => exact ⟨_, _, within.gone_of_leaving 0⟩

end Within

/-- A producer that has its answer before it takes the lock has done nothing. -/
theorem gone_of_refused (found : race.producers[k]? = some p) (unlocked : race.holder = none)
    (refusal : Refusal) (n : Nat) :
    ((race.advance k (.answered (.error refusal))).press k n).Gone k p
      (.error refusal, race.intake) := by
  have gone : (race.advance k (.answered (.error refusal))).Gone k p
      (.error refusal, race.intake) := ⟨rfl, getElem?_advance_self found, unlocked⟩
  exact gone.press n

/-- A producer that wants the lock does what `Intake.accept` does, unless it finds it
poisoned. -/
theorem gone_of_checked (found : race.producers[k]? = some p) (here : p.progress = .checked)
    (unlocked : race.holder = none) (n : Nat) :
    (race.press k (n + 7)).Gone k p
      (if race.intake.poisoned then (.error .broken, race.intake)
      else race.intake.accept p.request) := by
  have enters : race.proceed k p = race.enter k p.request := by simp only [proceed, here]
  have free : ¬ race.holder.isSome := by simp [unlocked]
  rw [press_succ found, enters, enter, if_neg free]
  by_cases poisoned : race.intake.poisoned = true
  · rw [if_pos poisoned, if_pos poisoned]
    exact gone_of_refused found unlocked .broken (n + 6)
  · rw [if_neg poisoned, if_neg poisoned]
    have inside : (race.advance k .inside).producers[k]? = some { p with progress := .inside } :=
      getElem?_advance_self found
    apply Gone.of_progress
    apply Within.gone_of_entered (p := { p with progress := .inside })
    exact ⟨inside, rfl, rfl⟩

/-- A producer that finds the intake ready hands its request in. -/
theorem gone_of_ready {sleeps : Nat} (found : race.producers[k]? = some p)
    (here : p.progress = .waiting sleeps) (unlocked : race.holder = none)
    (ready : race.intake.ready = true) (n : Nat) :
    (race.press k (n + 8)).Gone k p (race.intake.handIn p.request) := by
  have looks : race.proceed k p = race.look k p.request sleeps := by simp only [proceed, here]
  rw [press_succ found, looks, look, if_pos ready, Intake.handIn]
  by_cases acceptable : p.request.Acceptable race.intake.settings.channelPrefix
  · have checked : (race.advance k .checked).producers[k]? = some { p with progress := .checked } :=
      getElem?_advance_self found
    rw [if_pos acceptable, if_neg (not_not_intro acceptable)]
    apply Gone.of_progress
    exact gone_of_checked checked rfl unlocked n
  · rw [if_neg acceptable, if_pos acceptable]
    exact gone_of_refused found unlocked .illegal (n + 7)

/-- A producer that finds the intake not ready sleeps, or gives up. -/
theorem proceed_of_unready {sleeps : Nat} (here : p.progress = .waiting sleeps)
    (unready : race.intake.ready = false) :
    race.proceed k p =
      if sleeps = race.intake.settings.pollAttempts then
        race.advance k (.answered (.error .disabled))
      else race.advance k (.waiting (sleeps + 1)) := by
  have looks : race.proceed k p = race.look k p.request sleeps := by simp only [proceed, here]
  rw [looks, look, unready]
  rfl

/-- A producer that never finds it ready gives up. -/
theorem gone_of_unready {sleeps left : Nat} (found : race.producers[k]? = some p)
    (here : p.progress = .waiting sleeps) (unlocked : race.holder = none)
    (unready : race.intake.ready = false)
    (patience : sleeps + left = race.intake.settings.pollAttempts) (n : Nat) :
    (race.press k (n + left + 1)).Gone k p (.error .disabled, race.intake) := by
  induction left generalizing race p sleeps with
  | zero =>
      rw [Nat.add_zero] at patience
      rw [press_succ found, proceed_of_unready here unready, if_pos patience]
      exact gone_of_refused found unlocked .disabled n
  | succ left ih =>
      have patient : sleeps ≠ race.intake.settings.pollAttempts := by omega
      have slept : (race.advance k (.waiting (sleeps + 1))).producers[k]?
          = some { p with progress := .waiting (sleeps + 1) } := getElem?_advance_self found
      rw [press_succ found, proceed_of_unready here unready, if_neg patient]
      apply Gone.of_progress
      apply ih slept rfl unlocked unready
      rw [Nat.add_assoc, Nat.add_comm 1 left]
      exact patience

/-- A producer that comes while nobody holds the lock, and is not disturbed, gets the answer
of `Intake.submit`, and leaves the intake as that does. -/
theorem submit_undisturbed (race : Race) (request : Submission) (unlocked : race.holder = none)
    (n : Nat) :
    ((race.move (.arrive request)).press race.producers.length
        (n + race.intake.settings.pollAttempts + 8)).Gone
      race.producers.length { request := request } (race.intake.submit request) := by
  have found : (race.producers ++ [{ request := request }])[race.producers.length]?
      = some { request := request } := List.getElem?_concat_length
  rw [Intake.submit]
  by_cases ready : race.intake.ready = true
  · rw [if_pos ready]
    apply gone_of_ready
    · exact found
    · rfl
    · exact unlocked
    · exact ready
  · have enough : n + race.intake.settings.pollAttempts + 8
        = n + 7 + race.intake.settings.pollAttempts + 1 := by omega
    rw [if_neg ready, enough]
    apply gone_of_unready
    · exact found
    · rfl
    · exact unlocked
    · exact Bool.eq_false_iff.2 ready
    · exact Nat.zero_add _

end AttachService.Race
