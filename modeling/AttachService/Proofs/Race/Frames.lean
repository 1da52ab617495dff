/-
Module: AttachService.Proofs.Race.Frames
Purpose: What single moves of a race leave alone, and what they come to for one party.
Trusted boundary: none
Main exports: Race.Retreats, Race.move_cases, Race.holder_move_of_held, Race.not_consumer_move,
  Race.owed_move, Race.Untouched, Race.untouched_move, Race.count_move
-/
import AttachService.Proofs.Race.Drain
import AttachService.Proofs.Race.Rest

namespace AttachService.Race

variable {race : Race} {m : Move} {holder : Holder}

/-- The lock is held by somebody who shuts down. -/
def Retreats (holder : Option Holder) : Prop :=
  holder = some .closer ∨ holder = some .withdrawer ∨ holder = some .withdrawn

/-- Who shuts down is no consumer. -/
theorem Retreats.not_consumer {holder : Option Holder} (retreats : Retreats holder) :
    holder ≠ some .taker ∧ ∀ i, holder ≠ some (.bearer i) := by
  rcases retreats with rfl | rfl | rfl <;> simp

theorem Retreats.isNone_eq {holder : Option Holder} (retreats : Retreats holder) :
    holder.isNone = false := by
  rcases retreats with rfl | rfl | rfl <;> rfl

/-! ### What is left alone -/

/-- What holds already, and after each of its steps, holds after a move. -/
theorem move_cases {P : Race → Prop} (same : P race)
    (changed : ∀ {after}, race.Step m after → P after) : P (race.move m) := by
  rcases race.move_eq_or_step m with unchanged | step
  · rw [unchanged]
    exact same
  · exact changed step

/-- Whoever has the lock and is no producer keeps it until its own next step. -/
theorem holder_move_of_held (holds : race.holder = some holder)
    (person : ∀ k request stage, holder ≠ .producer k request stage) (stays : m ≠ .carryOn)
    (lives : m ≠ .die) : (race.move m).holder = some holder := by
  have apart : ∀ k request stage, race.holder ≠ some (.producer k request stage) := by
    intro k request stage same
    rw [holds] at same
    exact person k request stage (Option.some.inj same)
  refine move_cases (P := fun after => after.holder = some holder) holds fun step => ?_
  cases step with
  | arrive | sleep | pass | refuse | close | acquire | sendHome => exact holds
  | enter _ _ unlocked | lockToOpen unlocked | lockToClose unlocked | lockToTake unlocked =>
      rw [unlocked] at holds
      cases holds
  | welcome other | turnAway other | reserve other | overflow other | announce other | fill other
  | enlist other | leave other => exact absurd other (apart _ _ _)
  | markReady | comeLate | markClosed | markUnready | withdraw | findNothing | take | giveBack
  | depart => exact absurd rfl stays
  | die => exact absurd rfl lives

/-- The lock comes to a consumer only if it asks for it, and a slot only to that consumer. -/
theorem not_consumer_move (other : race.holder ≠ some .taker ∧ ∀ i, race.holder ≠ some (.bearer i))
    (foreign : m ≠ .take) :
    (race.move m).holder ≠ some .taker ∧ ∀ i, (race.move m).holder ≠ some (.bearer i) := by
  refine move_cases (P := fun after => after.holder ≠ some .taker
    ∧ ∀ i, after.holder ≠ some (.bearer i)) other fun step => ?_
  cases step with
  | arrive | sleep | pass | refuse | close | acquire | sendHome => exact other
  | lockToTake => exact absurd rfl foreign
  | findNothing holds | take holds => exact absurd holds other.1
  | giveBack holds | die holds => exact absurd holds (other.2 _)
  | enter | welcome | turnAway | reserve | overflow | announce | fill | enlist | leave | lockToOpen
  | markReady | comeLate | lockToClose | markClosed | markUnready | withdraw | depart => simp

/-- Units are taken by asking for them, and used up by whoever has taken the lock for that. -/
theorem owed_move (asks : m ≠ .acquire) (takes : m = .carryOn → race.holder ≠ some .taker) :
    (race.move m).owed = race.owed := by
  refine move_cases (P := fun after => after.owed = race.owed) rfl fun step => ?_
  cases step with
  | acquire => exact absurd rfl asks
  | findNothing holds | take holds => exact absurd holds (takes rfl)
  | _ => rfl

/-- No request was taken, and no slot was lost. -/
structure Untouched (race after : Race) : Prop where
  taken : after.taken = race.taken
  lost : after.lost = race.lost
  poisoned : after.intake.poisoned = race.intake.poisoned

/-- Only who takes a request, or dies with one, touches these. -/
theorem untouched_move (takes : m = .carryOn → race.holder ≠ some .taker) (lives : m ≠ .die) :
    race.Untouched (race.move m) := by
  refine move_cases ⟨rfl, rfl, rfl⟩ fun step => ?_
  cases step with
  | take holds => exact absurd holds (takes rfl)
  | die => exact absurd rfl lives
  | _ => exact ⟨rfl, rfl, rfl⟩

theorem sentHome_move (home : 0 < race.sentHome) (m : Move) : 0 < (race.move m).sentHome :=
  move_cases home fun step => sentHome_step home step

theorem Withdrawn.move (withdrawn : race.Withdrawn) (m : Move) : (race.move m).Withdrawn :=
  move_cases withdrawn fun step => withdrawn.step step

/-- The semaphore stays closed. -/
theorem closed_move (closed : race.intake.pending.closed = true) (m : Move) :
    (race.move m).intake.pending.closed = true := by
  refine move_cases (P := fun after => after.intake.pending.closed = true) closed fun step => ?_
  cases step with
  | close => rfl
  | _ => exact closed

/-- Only consumers that ask for units, and producers that announce requests, change how many
there are. -/
theorem count_move (asks : m ≠ .acquire)
    (quiet : ∀ k request i,
      race.holder = some (.producer k request (.reserved i)) → m ≠ .proceed k) :
    (race.move m).intake.pending.count = race.intake.pending.count := by
  refine move_cases (P := fun after => after.intake.pending.count = race.intake.pending.count) rfl
    fun step => ?_
  cases step with
  | acquire => exact absurd rfl asks
  | announce holds => exact absurd rfl (quiet _ _ _ holds)
  | _ => rfl

/-! ### The next step of whoever holds the lock -/

/-- Who shuts down has the lock until the intake is withdrawn. -/
theorem carryOn_of_retreats (retreats : Retreats race.holder) :
    Retreats (race.move .carryOn).holder
      ∨ (race.move .carryOn).holder = none ∧ (race.move .carryOn).Withdrawn := by
  rcases retreats with holds | holds | holds <;>
    simp [move, carryOn, holds, Retreats, Withdrawn]

/-- Who makes the intake ready gives the lock back after that. -/
theorem carryOn_of_opening (opening : race.holder = some .opener ∨ race.holder = some .departing) :
    (race.move .carryOn).holder = some .departing ∨ (race.move .carryOn).holder = none := by
  rcases opening with holds | holds <;> simp [move, carryOn, holds]

/-- A consumer with the lock gets what is queued first. -/
theorem carryOn_of_found {i : SlotId} {request : Submission} {intake : Intake}
    (holds : race.holder = some .taker) (found : race.intake.pull? = some (i, request, intake)) :
    race.move .carryOn
      = { race with
          intake := intake
          holder := some (.bearer i)
          owed := race.owed - 1
          taken := race.taken ++ [request] } := by
  simp only [move, carryOn, holds, found]

/-- A consumer that finds nothing loses its unit. -/
theorem carryOn_of_empty (holds : race.holder = some .taker) (empty : race.intake.pull? = none) :
    race.move .carryOn
      = { race with holder := some .departing, owed := race.owed - 1 } := by
  simp only [move, carryOn, holds, empty]

/-- A consumer that has its request gives the slot back. -/
theorem carryOn_of_bearer {i : SlotId} (holds : race.holder = some (.bearer i)) :
    race.move .carryOn
      = { race with intake := race.intake.vacate i, holder := some .departing } := by
  simp only [move, carryOn, holds]

theorem carryOn_of_departing (holds : race.holder = some .departing) :
    race.move .carryOn = { race with holder := none } := by
  simp only [move, carryOn, holds]

/-- A consumer that dies with a slot in its hands poisons the lock, and the slot is lost. -/
theorem die_of_bearer {i : SlotId} (holds : race.holder = some (.bearer i)) :
    race.move .die
      = { race with intake := race.intake.poison, holder := none, lost := race.lost ++ [i] } := by
  simp only [move, die, holds]

/-! ### Asking -/

theorem holder_lock (unlocked : race.holder = none) (holder : Holder) :
    (race.lock holder).holder = some holder := by
  rw [lock_of_unlocked unlocked]

/-- A consumer that gets a unit has a request coming to it. -/
theorem move_acquire_of_granted {pending : Semaphore}
    (granted : race.intake.pending.acquire = .granted pending) :
    race.move .acquire
      = { race with
          intake := { race.intake with pending := pending }
          owed := race.owed + 1 } := by
  rw [move, granted]

/-- A consumer that gets no unit, since the semaphore is closed, is sent home. -/
theorem move_acquire_of_refused (refused : race.intake.pending.acquire = .refused) :
    race.move .acquire = { race with sentHome := race.sentHome + 1 } := by
  rw [move, refused]

theorem move_take_of_owed (unit : race.owed ≠ 0) : race.move .take = race.lock .taker :=
  if_neg unit

/-- Consumers that came in turn still do if the last one found none before it. -/
theorem inTurn_concat {moves : List Move} (inTurn : race.InTurn moves)
    (turn : m = .acquire → (race.run moves).owed = 0) : race.InTurn (moves ++ [m]) := by
  induction moves generalizing race with
  | nil => exact ⟨turn, trivial⟩
  | cons first rest ih => exact ⟨inTurn.1, ih inTurn.2 turn⟩

/-! ### The last step of shutting down -/

theorem holder_close (race : Race) : (race.move .close).holder = race.holder := by
  simp only [move]
  split <;> rfl

/-- Whoever else may have closed the semaphore before, it is closed then. -/
theorem closed_of_close (withdrawn : race.Withdrawn) :
    (race.move .close).intake.pending.closed = true := by
  simp only [move]
  split
  · next none =>
      rcases withdrawn with some | closed
      · rw [none] at some
        cases some
      · exact closed
  · rfl

/-- Once a shutdown has given the lock back, no producer is welcome. -/
theorem Shut.not_welcomed {k : Nat} {request : Submission} {stage : Stage} (shut : race.Shut)
    (withdrawn : race.Withdrawn) (holds : race.holder = some (.producer k request stage)) :
    stage.welcomed ≠ true := by
  intro welcomed
  cases (shut.final withdrawn).1.symm.trans (shut.welcome holds welcomed)

/-- Once a shutdown has given the lock back, no producer has a slot in hand. -/
theorem Shut.hands_eq_nil (shut : race.Shut) (withdrawn : race.Withdrawn)
    (other : ∀ i, race.holder ≠ some (.bearer i)) : race.hands = [] := by
  rw [hands]
  cases holds : race.holder with
  | none => rfl
  | some holder =>
      cases holder with
      | producer k request stage =>
          cases stage with
          | entered | welcome | leaving => rfl
          | reserved | announced | filled =>
              exact absurd rfl (shut.not_welcomed withdrawn holds)
      | bearer i => exact absurd holds (other i)
      | opener | closer | withdrawer | withdrawn | taker | departing => rfl

end AttachService.Race
