/-
Module: AttachService.Proofs.Race.Aftermath
Purpose: An intake that is shut down for good and has no consumer any more, and a lock that a
  consumer has poisoned.
Trusted boundary: none
Main exports: Race.Unchanged, Race.unchanged_move, Race.Fruitless, Race.Fruitless.of_move,
  Race.press_of_unready, Race.exists_released, Race.run_flagged
-/
import AttachService.Proofs.Race.Frames

namespace AttachService.Race

variable {race after : Race} {m : Move} {k : Nat} {p : Producer}

/-! ### Nothing comes in, and nothing goes out -/

/-- The intake is as it was, and so is all that is known of requests. -/
structure Unchanged (race after : Race) : Prop where
  intake : after.intake = race.intake
  accepted : after.accepted = race.accepted
  taken : after.taken = race.taken
  lost : after.lost = race.lost

theorem Unchanged.trans {later : Race} (first : race.Unchanged after)
    (second : after.Unchanged later) : race.Unchanged later where
  intake := second.intake.trans first.intake
  accepted := second.accepted.trans first.accepted
  taken := second.taken.trans first.taken
  lost := second.lost.trans first.lost

/-- Once the semaphore is closed, only consumers change the intake. -/
theorem unchanged_move (shut : race.Shut) (closed : race.intake.pending.closed = true)
    (other : race.holder ≠ some .taker ∧ ∀ i, race.holder ≠ some (.bearer i))
    (asks : m ≠ .acquire) : race.Unchanged (race.move m) := by
  obtain ⟨marked, unready⟩ := shut.final (.inr closed)
  refine move_cases ⟨rfl, rfl, rfl, rfl⟩ fun step => ?_
  cases step with
  | reserve holds | overflow holds | announce holds | fill holds | enlist holds =>
      exact absurd rfl (shut.not_welcomed (.inr closed) holds)
  | markReady _ opened => cases marked.symm.trans opened
  | markClosed => exact ⟨by rw [Intake.markClosed, ← marked], rfl, rfl, rfl⟩
  | markUnready => exact ⟨by rw [Intake.markUnready, ← unready], rfl, rfl, rfl⟩
  | close => exact ⟨by rw [Intake.closePending, Semaphore.close, ← closed], rfl, rfl, rfl⟩
  | acquire => exact absurd rfl asks
  | findNothing holds | take holds => exact absurd holds other.1
  | giveBack holds | die holds => exact absurd holds (other.2 _)
  | _ => exact ⟨rfl, rfl, rfl, rfl⟩

/-! ### Producers that come too late -/

/-- A producer that has found the intake not ready whenever it looked. -/
def Fruitless (settings : Settings) (p : Producer) : Prop :=
  (∃ sleeps ≤ settings.pollAttempts, p.progress = .waiting sleeps)
    ∨ p.progress = .answered (.error .disabled)

/-- A producer that has never found the intake ready has not come to the lock. -/
theorem Fruitless.outside {settings : Settings} (fruitless : Fruitless settings p) :
    p.progress ≠ .checked ∧ p.progress ≠ .inside := by
  rcases fruitless with ⟨sleeps, -, waits⟩ | told
  · simp [waits]
  · simp [told]

/-- At an intake that is not ready, producers only come and look. -/
theorem Fruitless.of_move {settings : Settings} (tenure : race.Tenure)
    (same : race.intake.settings = settings) (unready : race.intake.ready = false)
    (fruitless : ∀ {p}, race.producers[k]? = some p → Fruitless settings p)
    (found : (race.move m).producers[k]? = some p) : Fruitless settings p := by
  revert found
  refine move_cases (P := fun after => after.producers[k]? = some p → Fruitless settings p)
    fruitless fun step found => ?_
  -- Either it is producer `k` that takes this step, or it stays where it is.
  have advanced : ∀ {j : Nat} {q : Producer} {progress : Progress}, race.producers[j]? = some q →
      (race.advance j progress).producers[k]? = some p →
        (Fruitless settings q → Fruitless settings { q with progress := progress }) →
          Fruitless settings p := by
    intro j q progress here found onward
    rcases of_getElem?_advance here found with ⟨rfl, rfl⟩ | ⟨-, there⟩
    · exact onward (fruitless here)
    · exact fruitless there
  cases step with
  | arrive request =>
      rcases of_getElem?_concat found with there | ⟨-, rfl⟩
      · exact fruitless there
      · exact .inl ⟨0, Nat.zero_le _, rfl⟩
  | sleep here waits _ patient =>
      refine advanced here found fun before => ?_
      rw [same] at patient
      rcases before with ⟨sleeps, most, waited⟩ | told
      · cases waited.symm.trans waits
        exact .inl ⟨_, Nat.lt_of_le_of_ne most patient, rfl⟩
      · cases told.symm.trans waits
  | pass _ _ ready => cases unready.symm.trans ready
  | refuse here reason =>
      refine advanced here found fun before => ?_
      cases reason with
      | unseen => exact .inr rfl
      | unacceptable _ ready => cases unready.symm.trans ready
      | poisoned checked => exact absurd checked before.outside.1
  | enter here checked => exact advanced here found fun before => absurd checked before.outside.1
  | leave holds =>
      obtain ⟨q, here, inside, -⟩ := tenure.known (by rw [insider, holds])
      exact advanced here found fun before => absurd inside before.outside.2
  | _ => exact fruitless found

/-- Where a producer was in between is not seen. -/
theorem advance_advance (race : Race) (k : Nat) (first second : Progress) :
    (race.advance k first).advance k second = race.advance k second := by
  simp only [advance, List.modify_modify_eq]
  rfl

/-- A producer that never finds the intake ready looks as often as it may, and is told so.
Nothing else comes of that. -/
theorem press_of_unready {sleeps left : Nat} (found : race.producers[k]? = some p)
    (here : p.progress = .waiting sleeps) (unready : race.intake.ready = false)
    (patience : sleeps + left = race.intake.settings.pollAttempts) :
    race.press k (left + 1) = race.advance k (.answered (.error .disabled)) := by
  induction left generalizing race p sleeps with
  | zero =>
      rw [Nat.add_zero] at patience
      rw [press_succ found, proceed_of_unready here unready, if_pos patience]
      rfl
  | succ left ih =>
      have patient : sleeps ≠ race.intake.settings.pollAttempts := by omega
      have slept : (race.advance k (.waiting (sleeps + 1))).producers[k]?
          = some { p with progress := .waiting (sleeps + 1) } := getElem?_advance_self found
      rw [press_succ found, proceed_of_unready here unready, if_neg patient,
        ih slept rfl unready (by rw [Nat.add_assoc, Nat.add_comm 1 left]; exact patience),
        advance_advance]

/-! ### The lock comes free -/

/-- Whoever has the lock gives it back with steps of its own, unless it is a consumer. -/
theorem exists_released (tenure : race.Tenure)
    (other : race.holder ≠ some .taker ∧ ∀ i, race.holder ≠ some (.bearer i)) :
    ∃ moves : List Move, (∀ m ∈ moves, m = .carryOn ∨ ∃ k, m = .proceed k)
      ∧ (race.run moves).holder = none := by
  cases holds : race.holder with
  | none => exact ⟨[], by simp, holds⟩
  | some holder =>
      cases holder with
      | producer k request stage =>
          obtain ⟨p, found, inside, same⟩ := tenure.known (by rw [insider, holds])
          have within : race.Within k p stage := ⟨found, inside, by rw [holds, same]⟩
          obtain ⟨n, outcome, gone⟩ := within.exists_gone
          refine ⟨List.replicate n (.proceed k), fun m member => ?_, gone.unlocked⟩
          exact .inr ⟨k, List.eq_of_mem_replicate member⟩
      | taker => exact absurd holds other.1
      | bearer i => exact absurd holds (other.2 i)
      | opener | closer | withdrawer | withdrawn | departing =>
          refine ⟨List.replicate 3 .carryOn, fun m member => .inl (List.eq_of_mem_replicate member),
            ?_⟩
          simp [move, carryOn, holds]

/-! ### A poisoned lock -/

/-- The race with a lock that is poisoned, or is not. -/
def flagged (race : Race) (poisoned : Bool) : Race :=
  { race with intake := { race.intake with poisoned := poisoned } }

/-- Who takes the lock does not look at whether it is poisoned. -/
theorem lock_flagged (race : Race) (poisoned : Bool) (holder : Holder) :
    (race.flagged poisoned).lock holder = (race.lock holder).flagged poisoned := by
  unfold lock
  split
  · next locked => rw [if_pos (show race.holder.isSome from locked)]
  · next unlocked =>
      rw [if_neg (show ¬ race.holder.isSome from unlocked)]
      rfl

/-- Who pulls a request does not look at whether the lock is poisoned. -/
theorem pull?_flagged (intake : Intake) (poisoned : Bool) :
    { intake with poisoned := poisoned }.pull?
      = intake.pull?.map fun (i, request, after) =>
          (i, request, { after with poisoned := poisoned }) := by
  simp only [Intake.pull?]
  split <;> rfl

theorem carryOn_flagged (race : Race) (poisoned : Bool) :
    (race.flagged poisoned).carryOn = race.carryOn.flagged poisoned := by
  cases holds : race.holder with
  | none => simp only [carryOn, flagged, holds]
  | some holder =>
      cases holder with
      | opener =>
          simp only [carryOn, flagged, holds, Intake.markReady]
          split <;> rfl
      | taker =>
          simp only [carryOn, flagged, holds, pull?_flagged]
          cases race.intake.pull? <;> rfl
      | closer | withdrawer | bearer =>
          simp only [carryOn, flagged, holds]
          rfl
      | producer | withdrawn | departing => simp only [carryOn, flagged, holds]

/-- Whoever makes the intake ready or shuts it down does not care for poison. -/
theorem move_flagged (race : Race) (poisoned : Bool)
    (indifferent : m = .markReady ∨ m = .withdraw ∨ m = .carryOn ∨ m = .close) :
    (race.flagged poisoned).move m = (race.move m).flagged poisoned := by
  rcases indifferent with rfl | rfl | rfl | rfl
  · exact lock_flagged race poisoned .opener
  · exact lock_flagged race poisoned .closer
  · exact carryOn_flagged race poisoned
  · simp only [move, flagged]
    split <;> rfl

/-- Making ready and shutting down come to the same, whether or not the lock is poisoned. -/
theorem run_flagged (race : Race) (poisoned : Bool) {moves : List Move}
    (indifferent : ∀ m ∈ moves, m = .markReady ∨ m = .withdraw ∨ m = .carryOn ∨ m = .close) :
    (race.flagged poisoned).run moves = (race.run moves).flagged poisoned := by
  induction moves generalizing race with
  | nil => rfl
  | cons m rest ih =>
      rw [run_cons, run_cons, move_flagged race poisoned (indifferent m List.mem_cons_self)]
      exact ih (race.move m) fun m member => indifferent m (List.mem_cons_of_mem _ member)

end AttachService.Race
