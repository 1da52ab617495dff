/-
Module: AttachService.Proofs.Race.Conservation
Purpose: In every race no slot is lost or duplicated, and the semaphore counts what is queued.
Trusted boundary: none
Main exports: Race.hands, Race.early, Race.Accounted, Race.Accounted.step, Race.run_induction,
  Race.Grounded, Race.Conserved, Race.slots_conserved_units_mirrored
-/
import AttachService.Proofs.Intake.Handling
import AttachService.Proofs.Race.Tenure

namespace AttachService

/-!
A slot leaves the pool before it enters the queue, and a unit is released before its request
is queued, so neither balance is even while somebody holds the lock.  What is missing is in
the hands of the holder: at most one slot, and at most one request that is announced but not
queued.
-/

/-- The slot that the holder of the lock has in its hands, if any. -/
def Holder.hands : Holder → List SlotId
  | .producer _ _ (.reserved i) | .producer _ _ (.announced i) | .producer _ _ (.filled i) => [i]
  | .bearer i => [i]
  | _ => []

/-- How many requests the holder of the lock has announced, but not queued yet. -/
def Holder.early : Holder → Nat
  | .producer _ _ (.announced _) | .producer _ _ (.filled _) => 1
  | _ => 0

/-- Whoever has announced a request has a slot for it. -/
theorem Holder.early_le (holder : Holder) : holder.early ≤ holder.hands.length := by
  unfold early hands
  split <;> simp

namespace Race

/-- The slot in the hands of whoever holds the lock, if any. -/
def hands (race : Race) : List SlotId := race.holder.elim [] Holder.hands

/-- How many requests are announced, but not queued yet. -/
def early (race : Race) : Nat := race.holder.elim 0 Holder.early

/-- Every slot is in one place, and every queued request has one unit. -/
structure Accounted (race : Race) (free queue : List SlotId) : Prop where
  layout : race.intake.chains.Layout free queue (race.hands ++ race.lost)
  mirror : race.intake.pending.count + race.owed = queue.length + race.early
  bound : race.intake.pending.max = Limits.slots
  unit : race.holder = some .taker → 0 < race.owed

variable {race after : Race} {m : Move} {free queue : List SlotId}

/-- All slots and units are accounted for somehow. -/
def Balanced (race : Race) : Prop := ∃ free queue, race.Accounted free queue

/-- At first every slot is free and there are no units. -/
theorem balanced_start (settings : Settings) : (start settings).Balanced := by
  refine ⟨[3, 2, 1, 0], [], ?_⟩
  exact {
    layout := Chains.layout_initial
    mirror := rfl
    bound := rfl
    unit := by simp [start] }

namespace Accounted

/-- Only slots, units, and what is on the way from one to the other matter to the accounts. -/
theorem congr (accounted : race.Accounted free queue)
    (chains : after.intake.chains = race.intake.chains)
    (pending : after.intake.pending = race.intake.pending) (owed : after.owed = race.owed)
    (lost : after.lost = race.lost) (hands : after.hands = race.hands)
    (early : after.early = race.early) (unit : after.holder = some .taker → 0 < after.owed) :
    after.Accounted free queue where
  layout := by
    rw [chains, hands, lost]
    exact accounted.layout
  mirror := by
    rw [pending, owed, early]
    exact accounted.mirror
  bound := by
    rw [pending]
    exact accounted.bound
  unit := unit

/-- The semaphore has room for a request as long as a slot is free. -/
theorem room (accounted : race.Accounted free queue) (idle : free ≠ []) :
    race.intake.pending.count < race.intake.pending.max := by
  have total := accounted.layout.length_eq
  have mirror := accounted.mirror
  have free := List.length_pos_iff.2 idle
  have announced : race.early ≤ race.hands.length := by
    rw [early, hands]
    cases race.holder with
    | none => exact Nat.le_refl 0
    | some holder => exact holder.early_le
  rw [accounted.bound]
  rw [List.length_append] at total
  omega

/-- While the holder of the lock has a slot but has not announced it, there is a unit for
every queued request, and fewer than the semaphore can count. -/
theorem announce?_ne_none {k : Nat} {request : Submission} {i : SlotId}
    (accounted : race.Accounted free queue)
    (holds : race.holder = some (.producer k request (.reserved i))) :
    race.intake.announce? ≠ none := by
  have total := accounted.layout.length_eq
  have mirror := accounted.mirror
  rw [Ne, Intake.announce?_eq_none_iff, accounted.bound]
  simp only [hands, early, holds, Option.elim_some, Holder.hands, Holder.early,
    List.length_append, List.length_singleton] at total mirror
  omega

/-- A consumer that has taken a unit and the lock finds a request. -/
theorem pull?_ne_none (accounted : race.Accounted free queue)
    (holds : race.holder = some .taker) : race.intake.pull? ≠ none := by
  have unit := accounted.unit holds
  have mirror := accounted.mirror
  rw [Ne, Intake.pull?_eq_none_iff accounted.layout]
  rintro rfl
  simp only [early, holds, Option.elim_some, Holder.early, List.length_nil] at mirror
  omega

/-- No step loses a slot or a unit unnoticed. -/
theorem step (accounted : race.Accounted free queue) (step : race.Step m after) :
    after.Balanced := by
  have layout := accounted.layout
  have mirror := accounted.mirror
  have unit := accounted.unit
  cases step with
  | arrive | sleep | pass | refuse | sendHome =>
      exact ⟨free, queue, accounted.congr rfl rfl rfl rfl rfl rfl unit⟩
  | close => exact ⟨free, queue, layout, mirror, accounted.bound, unit⟩
  | enter _ _ unlocked | lockToOpen unlocked | lockToClose unlocked =>
      exact ⟨free, queue, accounted.congr rfl rfl rfl rfl (by simp [hands, unlocked, Holder.hands])
        (by simp [early, unlocked, Holder.early]) (by simp)⟩
  | lockToTake unlocked owed =>
      exact ⟨free, queue, accounted.congr rfl rfl rfl rfl (by simp [hands, unlocked, Holder.hands])
        (by simp [early, unlocked, Holder.early]) fun _ => owed⟩
  | welcome holds | leave holds | markReady holds | comeLate holds | markClosed holds
  | markUnready holds | withdraw holds | depart holds =>
      exact ⟨free, queue, accounted.congr rfl rfl rfl rfl (by simp [hands, holds, Holder.hands])
        (by simp [early, holds, Holder.early]) (by simp)⟩
  | turnAway holds reason =>
      rcases reason.early with rfl | rfl
      all_goals
        exact ⟨free, queue, accounted.congr rfl rfl rfl rfl
          (by simp [hands, holds, Holder.hands]) (by simp [early, holds, Holder.early]) (by simp)⟩
  | overflow holds full => exact absurd full (accounted.announce?_ne_none holds)
  | findNothing holds empty => exact absurd empty (accounted.pull?_ne_none holds)
  | acquire left =>
      refine ⟨free, queue, layout, ?_, accounted.bound, fun _ => Nat.succ_pos _⟩
      simp only [left, early] at mirror ⊢
      omega
  | reserve holds found =>
      rw [hands, holds] at layout
      rw [early, holds] at mirror
      obtain ⟨rest, rfl, reserved, -⟩ := layout.of_takeFree found
      exact ⟨rest, queue, reserved, mirror, accounted.bound, by simp⟩
  | announce holds =>
      rw [hands, holds] at layout
      rw [early, holds] at mirror
      refine ⟨free, queue, layout, ?_, accounted.bound, by simp⟩
      simp only [early, Option.elim_some, Holder.early] at mirror ⊢
      omega
  | fill holds =>
      rw [hands, holds] at layout
      rw [early, holds] at mirror
      exact ⟨free, queue, Intake.layout_copyIn layout, mirror, accounted.bound, by simp⟩
  | enlist holds =>
      rw [hands, holds] at layout
      rw [early, holds] at mirror
      refine ⟨free, _, Intake.layout_enlist layout, ?_, accounted.bound, by simp⟩
      simp only [early, Option.elim_some, Holder.early, List.length_append,
        List.length_singleton] at mirror ⊢
      exact mirror
  | take holds found =>
      rw [hands, holds] at layout
      rw [early, holds] at mirror
      obtain ⟨rest, rfl, pulled, -⟩ := layout.of_takeHead found
      refine ⟨free, rest, pulled, ?_, accounted.bound, by simp⟩
      have owed := unit holds
      simp only [early, Option.elim_some, Holder.early, List.length_cons] at mirror ⊢
      omega
  | giveBack holds =>
      rw [hands, holds] at layout
      rw [early, holds] at mirror
      exact ⟨_, queue, Intake.layout_vacate layout, mirror, accounted.bound, by simp⟩
  | die holds =>
      rw [hands, holds] at layout
      rw [early, holds] at mirror
      exact ⟨free, queue, layout.congr_held (List.perm_append_singleton _ race.lost), mirror,
        accounted.bound, by simp⟩

end Accounted

/-- What every step preserves, given the accounts and the tenure of the producers, holds
along every run. -/
theorem run_induction {Inv : Race → Prop} (balanced : race.Balanced) (tenure : race.Tenure)
    (base : Inv race)
    (step : ∀ {before m after free queue}, before.Accounted free queue → before.Tenure →
      Inv before → before.Step m after → Inv after) (moves : List Move) :
    Inv (race.run moves) := by
  let Known (race : Race) : Prop := race.Balanced ∧ race.Tenure ∧ Inv race
  have first : Known race := ⟨balanced, tenure, base⟩
  have all : Known (race.run moves) := by
    refine run_preserves ?_ first moves
    rintro before m after ⟨⟨free, queue, accounted⟩, tenure, inv⟩ changed
    exact ⟨accounted.step changed, tenure.step changed, step accounted tenure inv changed⟩
  exact all.2.2

/-- The same for the runs that start from a new intake. -/
theorem start_induction {Inv : Race → Prop} {settings : Settings} (base : Inv (start settings))
    (step : ∀ {before m after free queue}, before.Accounted free queue → before.Tenure →
      Inv before → before.Step m after → Inv after) (moves : List Move) :
    Inv ((start settings).run moves) :=
  run_induction (balanced_start settings) (tenure_start settings) base step moves

/-- No number of steps loses a slot or a unit unnoticed. -/
theorem Balanced.run (balanced : race.Balanced) (moves : List Move) :
    (race.run moves).Balanced := by
  refine run_preserves ?_ balanced moves
  rintro before m after ⟨free, queue, accounted⟩ changed
  exact accounted.step changed

/-- At every moment all slots and units are accounted for. -/
theorem balanced_run (settings : Settings) (moves : List Move) :
    ((start settings).run moves).Balanced :=
  (balanced_start settings).run moves

theorem hands_of_unlocked (unlocked : race.holder = none) : race.hands = [] := by
  rw [hands, unlocked, Option.elim_none]

/-- No slot is in two places, and none is nowhere. -/
theorem Balanced.total (balanced : race.Balanced) :
    race.intake.freeCount + race.intake.queuedCount + race.hands.length + race.lost.length
      = Limits.slots := by
  obtain ⟨free, queue, accounted⟩ := balanced
  have layout := accounted.layout
  have total := layout.length_eq
  rw [List.length_append, ← Nat.add_assoc] at total
  rw [Intake.freeCount, Intake.queuedCount, layout.freeChain_eq, layout.queueChain_eq]
  exact total

/-! ### Broken intakes -/

/-- A producer is told that the intake is broken only because a consumer has died. -/
structure Grounded (race : Race) : Prop where
  poison : race.intake.poisoned = true → race.lost ≠ []
  leaving : ∀ k request, race.holder ≠ some (.producer k request (.leaving (.error .broken)))
  answers : ∀ {k : Nat} {p : Producer}, race.producers[k]? = some p →
    p.progress = .answered (.error .broken) → race.intake.poisoned = true

namespace Grounded

/-- A step that neither poisons the lock nor answers a producer changes none of the grounds. -/
theorem congr (grounded : race.Grounded)
    (poisoned : after.intake.poisoned = race.intake.poisoned) (lost : after.lost = race.lost)
    (producers : after.producers = race.producers)
    (leaving : ∀ k request, after.holder ≠ some (.producer k request (.leaving (.error .broken)))) :
    after.Grounded where
  poison dead := by
    rw [poisoned] at dead
    rw [lost]
    exact grounded.poison dead
  leaving := leaving
  answers found broken := by
    rw [producers] at found
    rw [poisoned]
    exact grounded.answers found broken

/-- A producer may go on to anything but that answer, or to that answer on good grounds. -/
theorem advance {k : Nat} {p : Producer} {progress : Progress} (grounded : race.Grounded)
    (found : race.producers[k]? = some p)
    (cause : progress = .answered (.error .broken) → race.intake.poisoned = true) :
    (race.advance k progress).Grounded where
  poison := grounded.poison
  leaving := grounded.leaving
  answers here broken := by
    rcases of_getElem?_advance found here with ⟨-, rfl⟩ | ⟨-, stays⟩
    · exact cause broken
    · exact grounded.answers stays broken

/-- No step tells a producer that the intake is broken unless a consumer has died. -/
theorem step (grounded : race.Grounded) (accounted : race.Accounted free queue)
    (tenure : race.Tenure) (step : race.Step m after) : after.Grounded := by
  have leaving := grounded.leaving
  cases step with
  | arrive fresh =>
      refine ⟨grounded.poison, leaving, ?_⟩
      intro j q here broken
      rcases of_getElem?_concat here with stays | ⟨-, rfl⟩
      · exact grounded.answers stays broken
      · cases broken
  | sleep found | pass found => exact grounded.advance found (by simp)
  | refuse found reason =>
      refine grounded.advance found fun broken => ?_
      cases broken
      exact reason.is_poisoned
  | enter found =>
      have inside := grounded.advance found (by simp : Progress.inside = _ → _)
      exact ⟨inside.poison, by simp, inside.answers⟩
  | @leave k request answer holds =>
      obtain ⟨p, found, -, -⟩ := tenure.known (by rw [insider, holds])
      have gone : (race.advance k (.answered answer)).Grounded := by
        refine grounded.advance found ?_
        intro broken
        cases broken
        exact absurd holds (leaving k request)
      exact ⟨gone.poison, by simp, gone.answers⟩
  | overflow holds full => exact absurd full (accounted.announce?_ne_none holds)
  | turnAway holds reason =>
      refine grounded.congr rfl rfl rfl fun j other same => reason.ne_broken ?_
      cases same
      rfl
  | close | acquire | sendHome => exact grounded.congr rfl rfl rfl leaving
  | welcome | reserve | announce | fill | enlist | lockToOpen | markReady | comeLate | lockToClose
  | markClosed | markUnready | withdraw | lockToTake | findNothing | take | giveBack | depart =>
      exact grounded.congr rfl rfl rfl (by simp)
  | die => exact ⟨by simp, by simp, fun _ _ => rfl⟩

end Grounded

theorem grounded_start (settings : Settings) : (start settings).Grounded :=
  ⟨by simp [start, Intake.new], by simp [start], by simp [start]⟩

/-- At every moment, whoever has heard that the intake is broken has heard the truth. -/
theorem grounded_run (settings : Settings) (moves : List Move) :
    ((start settings).run moves).Grounded :=
  start_induction (grounded_start settings)
    (fun accounted tenure grounded step => grounded.step accounted tenure step) moves

/-! ### What the accounts come to -/

/-- Where all slots and all units are, whatever the parties have done so far. -/
structure Conserved (race : Race) : Prop where
  /-- The chains are in order, and every slot is on one of them, in the hands of whoever holds
  the lock, or lost. -/
  places : race.intake.chains.Layout race.intake.chains.freeChain race.intake.chains.queueChain
    (race.hands ++ race.lost)
  /-- While nobody holds the lock, nobody has a slot in his hands. -/
  unlocked : race.holder = none →
    race.intake.freeCount + race.intake.queuedCount + race.lost.length = Limits.slots
  mirror : race.intake.pending.count + race.owed = race.intake.queuedCount + race.early
  /-- A consumer that has a unit and the lock finds a request. -/
  found : race.holder = some .taker → race.intake.pull? ≠ none
  /-- The semaphore has room for every request that has a slot. -/
  room : ∀ {k : Nat} {request : Submission} {i : SlotId},
    race.holder = some (.producer k request (.reserved i)) → race.intake.announce? ≠ none
  /-- The intake is called broken only while the lock is poisoned, after a consumer's death. -/
  broken : ∀ {k : Nat} {p : Producer}, race.producers[k]? = some p →
    p.progress = .answered (.error .broken) → race.intake.poisoned = true ∧ race.lost ≠ []

/-- Whatever the parties do, every slot is in one place, and every queued request has its unit. -/
theorem slots_conserved_units_mirrored (settings : Settings) (moves : List Move) :
    ((start settings).run moves).Conserved := by
  obtain ⟨free, queue, accounted⟩ := balanced_run settings moves
  have grounded := grounded_run settings moves
  generalize (start settings).run moves = race at accounted grounded
  have layout := accounted.layout
  have freeChain := layout.freeChain_eq
  have queueChain := layout.queueChain_eq
  exact {
    places := by rwa [freeChain, queueChain]
    unlocked := by
      intro nobody
      have total := layout.length_eq
      rw [hands, nobody] at total
      rw [Intake.freeCount, Intake.queuedCount, freeChain, queueChain]
      exact total
    mirror := by rw [Intake.queuedCount, queueChain, accounted.mirror]
    found := accounted.pull?_ne_none
    room := accounted.announce?_ne_none
    broken := by
      intro k p found broken
      have poisoned := grounded.answers found broken
      exact ⟨poisoned, grounded.poison poisoned⟩ }

end Race

end AttachService
