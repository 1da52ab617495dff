/-
Module: AttachService.Proofs.Shift.Steps
Purpose: All that a move of a shift can come to, and what the thread and its keeper know of the
  lock.
Trusted boundary: none
Main exports: Shift.Step, Shift.Waits, Shift.move_eq_or_step, Shift.Manned, Shift.Manned.step,
  Shift.Traced, Shift.Known, Shift.run_induction
-/
import AttachService.Proofs.Race.Frames
import AttachService.Shift

namespace AttachService

/-!
Seen from the race, a shift is one schedule among others: every move of the shift is one move
of the race or none.  `Traced` says so, and with it all that is known of races is known of
shifts.  `Manned` says which of the parties of the race are the thread and its keeper; it is
what lets the thread ask for a unit only when it has none, as `Race.InTurn` wants.
-/

/-- How many units a thread at this post has that it has no request for. -/
def Post.units : Post → Nat
  | .owed | .taking => 1
  | _ => 0

/-- Who holds the lock, as far as a thread at this post knows.  Nobody else takes requests. -/
def Post.Grips : Post → Option Holder → Prop
  | .opening, holder => holder = some .opener ∨ holder = some .departing
  | .taking, holder => holder = some .taker
  | .bearing _, holder => ∃ i, holder = some (.bearer i)
  | .parting _, holder => holder = some .departing
  | .withdrawing _, holder => Race.Retreats holder
  | _, holder => holder ≠ some .taker ∧ ∀ i, holder ≠ some (.bearer i)

namespace Shift

variable {world : Type} [Transport world] {shift after : Shift world} {m : ShiftMove world}

/-- What a move that changes anything comes to. -/
inductive Step (shift : Shift world) : ShiftMove world → Shift world → Prop where
  | elsewhere {m : Move} (foreign : m ≠ .acquire ∧ m ≠ .take ∧ m ≠ .die)
      (free : m = .carryOn → shift.occupied = false) :
      Step shift (.others m) { shift with race := shift.race.move m }
  | drift (outside : world) : Step shift (.drift outside) { shift with outside := outside }
  | begin (here : shift.post = .starting) (unlocked : shift.race.holder = none) :
      Step shift .work (shift.step .markReady .opening)
  | openUp (here : shift.post = .opening) :
      Step shift .work
        (shift.step .carryOn
          (if (shift.race.move .carryOn).holder.isNone then .asking else .opening))
  | acquire {pending : Semaphore} (here : shift.post = .asking)
      (granted : shift.race.intake.pending.acquire = .granted pending) :
      Step shift .work (shift.step .acquire .owed)
  /-- There will be no more requests. -/
  | sendHome (here : shift.post = .asking)
      (refused : shift.race.intake.pending.acquire = .refused) :
      Step shift .work (shift.step .acquire (.leaving false))
  | reach (here : shift.post = .owed) (unlocked : shift.race.holder = none) :
      Step shift .work (shift.step .take .taking)
  | findNothing (here : shift.post = .taking) (empty : shift.race.intake.pull? = none) :
      Step shift .work (shift.step .carryOn (.parting none))
  | take {i : SlotId} {request : Submission} {intake : Intake} (here : shift.post = .taking)
      (found : shift.race.intake.pull? = some (i, request, intake)) :
      Step shift .work (shift.step .carryOn (.bearing request))
  | giveBack {request : Submission} (here : shift.post = .bearing request) :
      Step shift .work (shift.step .carryOn (.parting (some request)))
  | part {request : Submission} (here : shift.post = .parting (some request)) :
      Step shift .work (shift.step .carryOn (.holding request))
  | partWithNothing (here : shift.post = .parting none) :
      Step shift .work
        { shift.step .carryOn .asking with
          events := shift.events ++ [.notice .emptyQueue] }
  | unwrap {request : Submission} {job : Job} {outside : world} {events : List Event}
      (here : shift.post = .holding request)
      (made : (Pending.ofSubmission request).materialize
        shift.race.intake.settings shift.outside = (.job job, outside, events)) :
      Step shift .work
        { shift with
          outside := outside
          post := .serving request job
          events := shift.events ++ events }
  | drop {request : Submission} {outside : world} {events : List Event}
      (here : shift.post = .holding request)
      (dropped : (Pending.ofSubmission request).materialize
        shift.race.intake.settings shift.outside = (.dropped, outside, events)) :
      Step shift .work (shift.note request .dropped .asking outside events)
  /-- Opening the channel takes the thread down. -/
  | fall {request : Submission} {outside : world} {events : List Event}
      (here : shift.post = .holding request)
      (panicked : (Pending.ofSubmission request).materialize
        shift.race.intake.settings shift.outside = (.panicked, outside, events)) :
      Step shift .work (shift.note request .fatal (.leaving true) outside events)
  | answer {request : Submission} {job : Job} (here : shift.post = .serving request job) :
      Step shift .work (shift.answer request job)
  | leave {dead : Bool} (here : shift.post = .leaving dead) (unlocked : shift.race.holder = none) :
      Step shift .work (shift.step .withdraw (.withdrawing dead))
  | withdraw {dead : Bool} (here : shift.post = .withdrawing dead) :
      Step shift .work
        (shift.step .carryOn
          (if (shift.race.move .carryOn).holder.isNone then .closing dead else .withdrawing dead))
  | close {dead : Bool} (here : shift.post = .closing dead) :
      Step shift .work (shift.step .close (.gone dead))
  /-- The thread dies with a slot in its hands. -/
  | perish {request : Submission} (here : shift.post = .bearing request) :
      Step shift .collapse
        ((shift.step .die shift.post).note request .lost (.leaving true) shift.outside [])
  /-- The thread dies on its way to a job, or with one. -/
  | founder {request : Submission}
      (here : shift.post = .holding request ∨ ∃ job, shift.post = .serving request job) :
      Step shift .collapse (shift.note request .fatal (.leaving true) shift.outside [])
  | approach (here : shift.keeper = .away) (unlocked : shift.race.holder = none) :
      Step shift .stop
        { shift with
          race := shift.race.move .withdraw
          keeper := .withdrawing }
  | retreat (here : shift.keeper = .withdrawing) :
      Step shift .stop
        { shift with
          race := shift.race.move .carryOn
          keeper := if (shift.race.move .carryOn).holder.isNone then .closing else .withdrawing }
  | shut (here : shift.keeper = .closing) :
      Step shift .stop
        { shift with
          race := shift.race.move .close
          keeper := .waiting }
  | join {dead : Bool} (events : List Event) (here : shift.keeper = .waiting)
      (gone : shift.post = .gone dead) :
      Step shift .stop
        { shift with
          keeper := .done dead
          events := events }

/-! ### The inversion -/

/-- What the thread waits for. -/
inductive Waits (shift : Shift world) : Prop where
  | lock (outside : shift.post.inside = false) (locked : shift.race.holder.isSome = true)
  | unit (here : shift.post = .asking)
      (blocked : shift.race.intake.pending.acquire = .blocked)
  /-- It is gone, and waits for nothing. -/
  | gone {dead : Bool} (here : shift.post = .gone dead)

/-- The thread waits for the lock or for a unit, or takes a step. -/
theorem waits_or_step_work (shift : Shift world) :
    shift.work = shift ∧ shift.Waits ∨ shift.Step .work shift.work := by
  unfold work
  simp only
  split
  · next here =>
      split
      · next locked => exact .inl ⟨rfl, .lock (by rw [here]; rfl) locked⟩
      · next unlocked => exact .inr (.begin here (by simpa using unlocked))
  · next here => exact .inr (.openUp here)
  · next here =>
      split
      · next granted => exact .inr (.acquire here granted)
      · next refused => exact .inr (.sendHome here refused)
      · next blocked => exact .inl ⟨rfl, .unit here blocked⟩
  · next here =>
      split
      · next locked => exact .inl ⟨rfl, .lock (by rw [here]; rfl) locked⟩
      · next unlocked => exact .inr (.reach here (by simpa using unlocked))
  · next here =>
      split
      · next empty => exact .inr (.findNothing here empty)
      · next found => exact .inr (.take here found)
  · next here => exact .inr (.giveBack here)
  · next here => exact .inr (.part here)
  · next here => exact .inr (.partWithNothing here)
  · next here =>
      unfold Shift.unwrap
      split
      · next made => exact .inr (.unwrap here made)
      · next dropped => exact .inr (.drop here dropped)
      · next panicked => exact .inr (.fall here panicked)
  · next here => exact .inr (.answer here)
  · next here =>
      split
      · next locked => exact .inl ⟨rfl, .lock (by rw [here]; rfl) locked⟩
      · next unlocked => exact .inr (.leave here (by simpa using unlocked))
  · next here => exact .inr (.withdraw here)
  · next here => exact .inr (.close here)
  · next here => exact .inl ⟨rfl, .gone here⟩

/-- The thread dies only with a request in its hands, or on its way to a job. -/
theorem eq_or_step_collapse (shift : Shift world) :
    shift.collapse = shift ∨ shift.Step .collapse shift.collapse := by
  unfold collapse
  split
  · next here => exact .inr (.perish here)
  · next here => exact .inr (.founder (.inl here))
  · next here => exact .inr (.founder (.inr ⟨_, here⟩))
  · exact .inl rfl

/-- The keeper waits for the lock or for the thread, or takes a step. -/
theorem eq_or_step_stop (shift : Shift world) :
    shift.stop = shift ∨ shift.Step .stop shift.stop := by
  unfold stop
  split
  · next here =>
      split
      · exact .inl rfl
      · next unlocked => exact .inr (.approach here (by simpa using unlocked))
  · next here => exact .inr (.retreat here)
  · next here => exact .inr (.shut here)
  · next here =>
      split
      · next gone => exact .inr (.join shift.events here gone)
      · next gone => exact .inr (.join _ here gone)
      · exact .inl rfl
  · exact .inl rfl

/-- A move changes nothing, or it is one of the steps. -/
theorem move_eq_or_step (shift : Shift world) (m : ShiftMove world) :
    shift.move m = shift ∨ shift.Step m (shift.move m) := by
  cases m with
  | others m =>
      cases m with
      | acquire | take | die => exact .inl rfl
      | carryOn =>
          simp only [move]
          split
          · exact .inl rfl
          · next free => exact .inr (.elsewhere (by simp) fun _ => by simpa using free)
      | arrive | proceed | markReady | withdraw | close =>
          exact .inr (.elsewhere (by simp) (by simp))
  | drift outside => exact .inr (.drift outside)
  | work => exact (waits_or_step_work shift).imp_left And.left
  | collapse => exact eq_or_step_collapse shift
  | stop => exact eq_or_step_stop shift

/-! ### Runs -/

@[simp] theorem run_nil (shift : Shift world) : shift.run [] = shift := rfl

theorem run_cons (shift : Shift world) (m : ShiftMove world) (moves : List (ShiftMove world)) :
    shift.run (m :: moves) = (shift.move m).run moves := rfl

theorem run_append (shift : Shift world) (first second : List (ShiftMove world)) :
    shift.run (first ++ second) = (shift.run first).run second :=
  List.foldl_append

theorem run_concat (shift : Shift world) (moves : List (ShiftMove world)) (m : ShiftMove world) :
    shift.run (moves ++ [m]) = (shift.run moves).move m :=
  shift.run_append moves [m]

end Shift

/-! ### The lock -/

/-- A thread that has the lock is the holder, and no producer. -/
theorem Post.Grips.of_inside {post : Post} {holder : Option Holder} (grips : post.Grips holder)
    (inside : post.inside = true) :
    ∃ own, holder = some own ∧ ∀ k request stage, own ≠ .producer k request stage := by
  cases post with
  | opening => rcases grips with rfl | rfl <;> exact ⟨_, rfl, by simp⟩
  | taking => exact ⟨_, grips, by simp⟩
  | bearing request =>
      obtain ⟨i, rfl⟩ := grips
      exact ⟨_, rfl, by simp⟩
  | parting request => exact ⟨_, grips, by simp⟩
  | withdrawing dead => rcases grips with rfl | rfl | rfl <;> exact ⟨_, rfl, by simp⟩
  | starting | asking | owed | holding | serving | leaving | closing | gone => cases inside

/-- As long as the thread does not have the lock, no consumer has. -/
theorem Post.grips_of_outside {post : Post} {holder : Option Holder}
    (outside : post.inside = false) :
    post.Grips holder ↔ holder ≠ some .taker ∧ ∀ i, holder ≠ some (.bearer i) := by
  cases post <;> first
    | exact Iff.rfl
    | cases outside

namespace Shift

variable {world : Type} {shift after : Shift world}

/-- Which parties of the race are the thread and its keeper. -/
structure Manned (shift : Shift world) : Prop where
  grips : shift.post.Grips shift.race.holder
  units : shift.race.owed = shift.post.units
  keeper : shift.keeper = .withdrawing → Race.Retreats shift.race.holder ∧ shift.post.inside = false

/-- Where nobody has the lock, the thread does not have it. -/
theorem Manned.outside_of_unlocked (manned : shift.Manned) (unlocked : shift.race.holder = none) :
    shift.post.inside = false := by
  rw [← Bool.not_eq_true]
  intro inside
  obtain ⟨own, holds, -⟩ := manned.grips.of_inside inside
  rw [unlocked] at holds
  cases holds

/-- What others do does not take the lock from the thread or its keeper. -/
theorem Manned.holder_elsewhere (manned : shift.Manned) {m : Move}
    (foreign : m ≠ .acquire ∧ m ≠ .take ∧ m ≠ .die) (free : m = .carryOn → shift.occupied = false)
    (occupied : shift.occupied = true) : (shift.race.move m).holder = shift.race.holder := by
  have stays : m ≠ .carryOn := fun same => by cases (free same).symm.trans occupied
  rcases Bool.or_eq_true_iff.1 occupied with inside | withdrawing
  · obtain ⟨own, holds, person⟩ := manned.grips.of_inside inside
    rw [Race.holder_move_of_held holds person stays foreign.2.2, holds]
  · rcases (manned.keeper (eq_of_beq withdrawing)).1 with holds | holds | holds <;>
      rw [Race.holder_move_of_held holds (by simp) stays foreign.2.2, holds]

/-- What others do leaves the thread and its keeper where they are. -/
theorem Manned.elsewhere (manned : shift.Manned) {m : Move}
    (foreign : m ≠ .acquire ∧ m ≠ .take ∧ m ≠ .die)
    (free : m = .carryOn → shift.occupied = false) :
    ({ shift with race := shift.race.move m } : Shift world).Manned where
  grips := by
    cases inside : shift.post.inside with
    | false =>
        rw [Post.grips_of_outside inside]
        exact Race.not_consumer_move ((Post.grips_of_outside inside).1 manned.grips) foreign.2.1
    | true =>
        have kept := manned.holder_elsewhere foreign free (by simp [occupied, inside])
        simp only [kept]
        exact manned.grips
  units := by
    refine (Race.owed_move foreign.1 fun same holds => ?_).trans manned.units
    have outside := (Bool.or_eq_false_iff.1 (free same)).1
    exact ((Post.grips_of_outside outside).1 manned.grips).1 holds
  keeper := by
    intro here
    have withdrawing : shift.keeper = .withdrawing := here
    have kept := manned.holder_elsewhere foreign free (by simp [occupied, withdrawing])
    simp only [kept]
    exact manned.keeper withdrawing

/-- The thread does not have the lock: its keeper may have. -/
theorem Manned.keeper_of_eq (manned : shift.Manned) {race : Race} {post : Post}
    (holder : race.holder = shift.race.holder) (outside : post.inside = false) :
    shift.keeper = .withdrawing → Race.Retreats race.holder ∧ post.inside = false := by
  intro here
  rw [holder]
  exact ⟨(manned.keeper here).1, outside⟩

/-- The thread has the lock, so its keeper has not. -/
theorem Manned.keeper_of_inside (manned : shift.Manned) (inside : shift.post.inside = true) :
    shift.keeper ≠ .withdrawing := by
  intro here
  rw [(manned.keeper here).2] at inside
  cases inside

/-- Nobody has the lock, so the keeper has not. -/
theorem Manned.keeper_of_unlocked (manned : shift.Manned) (unlocked : shift.race.holder = none) :
    shift.keeper ≠ .withdrawing := by
  intro here
  rcases (manned.keeper here).1 with holds | holds | holds <;>
    cases unlocked.symm.trans holds

/-- A step by which no unit is taken or used up, to a post where the thread has none. -/
theorem Manned.units_of_eq (manned : shift.Manned) {m : Move} {post : Post} (asks : m ≠ .acquire)
    (other : shift.race.holder ≠ some .taker) (before : shift.post.units = 0)
    (now : post.units = 0) : (shift.race.move m).owed = post.units := by
  rw [Race.owed_move asks fun _ => other, manned.units, before, now]

/-- A step of the thread while its keeper does not have the lock. -/
theorem manned_step (idle : shift.keeper ≠ .withdrawing) {m : Move} {post : Post}
    (grips : post.Grips (shift.race.move m).holder)
    (units : (shift.race.move m).owed = post.units) : (shift.step m post).Manned :=
  ⟨grips, units, fun same => absurd same idle⟩

/-- The thread goes on with making the intake ready. -/
theorem Manned.openUp (manned : shift.Manned) (here : shift.post = .opening) :
    (shift.step .carryOn
      (if (shift.race.move .carryOn).holder.isNone then .asking else .opening)).Manned := by
  have grips := manned.grips
  have idle := manned.keeper_of_inside (by rw [here]; rfl)
  rw [here] at grips
  have other : shift.race.holder ≠ some .taker := by
    rcases grips with holds | holds <;> simp [holds]
  rcases Race.carryOn_of_opening grips with holds | holds
  · rw [holds]
    exact manned_step idle (.inr holds)
      (manned.units_of_eq (by simp) other (by rw [here]; rfl) rfl)
  · rw [holds]
    exact manned_step idle (by simp [Post.Grips, holds])
      (manned.units_of_eq (by simp) other (by rw [here]; rfl) rfl)

/-- The thread goes on with refusing further requests. -/
theorem Manned.withdraw {dead : Bool} (manned : shift.Manned)
    (here : shift.post = .withdrawing dead) :
    (shift.step .carryOn
      (if (shift.race.move .carryOn).holder.isNone then .closing dead
        else .withdrawing dead)).Manned := by
  have grips := manned.grips
  have idle := manned.keeper_of_inside (by rw [here]; rfl)
  rw [here] at grips
  have other := grips.not_consumer.1
  rcases Race.carryOn_of_retreats grips with retreats | ⟨holds, -⟩
  · rw [retreats.isNone_eq]
    exact manned_step idle retreats
      (manned.units_of_eq (by simp) other (by rw [here]; rfl) rfl)
  · rw [holds]
    exact manned_step idle (by simp [Post.Grips, holds])
      (manned.units_of_eq (by simp) other (by rw [here]; rfl) rfl)

/-- The keeper takes the lock. -/
theorem Manned.approach (manned : shift.Manned) (unlocked : shift.race.holder = none) :
    ({ shift with
      race := shift.race.move .withdraw
      keeper := .withdrawing } : Shift world).Manned := by
  have outside := manned.outside_of_unlocked unlocked
  have holds : (shift.race.move .withdraw).holder = some .closer := Race.holder_lock unlocked _
  refine ⟨?_, (Race.owed_move (by simp) (by simp)).trans manned.units,
    fun _ => ⟨.inl holds, outside⟩⟩
  rw [Post.grips_of_outside outside]
  simp [holds]

/-- The keeper goes on with refusing further requests. -/
theorem Manned.retreat (manned : shift.Manned) (here : shift.keeper = .withdrawing) :
    ({ shift with
      race := shift.race.move .carryOn
      keeper := if (shift.race.move .carryOn).holder.isNone then .closing else .withdrawing }
      : Shift world).Manned := by
  obtain ⟨retreats, outside⟩ := manned.keeper here
  have other := retreats.not_consumer.1
  have kept : (shift.race.move .carryOn).owed = shift.post.units :=
    (Race.owed_move (by simp) fun _ => other).trans manned.units
  rcases Race.carryOn_of_retreats retreats with still | ⟨holds, -⟩
  · exact ⟨(Post.grips_of_outside outside).2 still.not_consumer, kept, fun _ => ⟨still, outside⟩⟩
  · refine ⟨(Post.grips_of_outside outside).2 (by simp [holds]), kept, fun same => ?_⟩
    simp [holds] at same

theorem manned_start (settings : Settings) (outside : world) (commands : CommandTable) :
    (start settings outside commands).Manned :=
  ⟨⟨by simp [start, Race.start], by simp [start, Race.start]⟩, rfl, by simp [start]⟩

/-- The race of the shift is one that can come about with one consumer at a time. -/
def Traced (settings : Settings) (shift : Shift world) : Prop :=
  ∃ moves, (Race.start settings).run moves = shift.race ∧ (Race.start settings).InTurn moves

/-- What is known of a shift at any time. -/
structure Known (settings : Settings) (shift : Shift world) : Prop where
  manned : shift.Manned
  traced : shift.Traced settings

theorem known_start (settings : Settings) (outside : world) (commands : CommandTable) :
    (start settings outside commands).Known settings :=
  ⟨manned_start settings outside commands, [], rfl, trivial⟩

/-- What holds of every race holds of the race of a shift. -/
theorem Known.always {settings : Settings} {P : Race → Prop} (known : shift.Known settings)
    (all : ∀ moves, P ((Race.start settings).run moves)) : P shift.race := by
  obtain ⟨moves, reached, -⟩ := known.traced
  rw [← reached]
  exact all moves

theorem Known.settings_eq {settings : Settings} (known : shift.Known settings) :
    shift.race.intake.settings = settings :=
  known.always (P := fun race => race.intake.settings = settings) (Race.settings_run settings)

/-- Once the thread was sent home, nothing is left for it. -/
theorem Known.spent {settings : Settings} (known : shift.Known settings) : shift.race.Spent := by
  obtain ⟨moves, reached, inTurn⟩ := known.traced
  rw [← reached]
  exact Race.spent_run (Race.balanced_start settings) (Race.tenure_start settings)
    (Race.shut_start settings) (Race.spent_start settings) inTurn

variable [Transport world] {m : ShiftMove world}

/-- After any step the thread and its keeper are where the lock says that they are. -/
theorem Manned.step (manned : shift.Manned) (step : shift.Step m after) : after.Manned := by
  have grips := manned.grips
  have units := manned.units
  have inside : shift.post.inside = true → shift.keeper ≠ .withdrawing := manned.keeper_of_inside
  cases step with
  | elsewhere foreign free => exact manned.elsewhere foreign free
  | drift => exact ⟨grips, units, manned.keeper⟩
  | begin here unlocked =>
      exact manned_step (manned.keeper_of_unlocked unlocked) (.inl (Race.holder_lock unlocked _))
        (manned.units_of_eq (by simp) (by simp [unlocked]) (by rw [here]; rfl) rfl)
  | openUp here => exact manned.openUp here
  | acquire here granted =>
      rw [here] at grips units
      refine ⟨?_, ?_, ?_⟩ <;> simp only [Shift.step, Race.move_acquire_of_granted granted]
      · exact grips
      · rw [units]
        rfl
      · exact manned.keeper_of_eq rfl rfl
  | sendHome here refused =>
      rw [here] at grips units
      refine ⟨?_, ?_, ?_⟩ <;> simp only [Shift.step, Race.move_acquire_of_refused refused]
      · exact grips
      · exact units
      · exact manned.keeper_of_eq rfl rfl
  | reach here unlocked =>
      rw [here] at units
      have unit : shift.race.owed ≠ 0 := by rw [units]; exact Nat.one_ne_zero
      refine manned_step (manned.keeper_of_unlocked unlocked) ?_
        ((Race.owed_move (by simp) (by simp)).trans units)
      rw [Race.move_take_of_owed unit]
      exact Race.holder_lock unlocked _
  | findNothing here empty =>
      have idle := inside (by rw [here]; rfl)
      rw [here] at grips units
      refine manned_step idle ?_ ?_ <;> rw [Race.carryOn_of_empty grips empty]
      · rfl
      · rw [units]
        rfl
  | @take i _ _ here found =>
      have idle := inside (by rw [here]; rfl)
      rw [here] at grips units
      refine manned_step idle ?_ ?_ <;> rw [Race.carryOn_of_found grips found]
      · exact ⟨i, rfl⟩
      · rw [units]
        rfl
  | giveBack here =>
      have idle := inside (by rw [here]; rfl)
      rw [here] at grips
      obtain ⟨i, holds⟩ := grips
      refine manned_step idle ?_
        (manned.units_of_eq (by simp) (by simp [holds]) (by rw [here]; rfl) rfl)
      rw [Race.carryOn_of_bearer holds]
      rfl
  | part here | partWithNothing here =>
      have idle := inside (by rw [here]; rfl)
      rw [here] at grips
      have holds : shift.race.holder = some .departing := grips
      refine ⟨?_, manned.units_of_eq (by simp) (by simp [holds]) (by rw [here]; rfl) rfl,
        fun same => absurd same idle⟩
      simp [Shift.step, Race.carryOn_of_departing holds, Post.Grips]
  | unwrap here | drop here | fall here | answer here =>
      rw [here] at grips units
      exact ⟨grips, units, manned.keeper_of_eq rfl rfl⟩
  | leave here unlocked =>
      exact manned_step (manned.keeper_of_unlocked unlocked) (.inl (Race.holder_lock unlocked _))
        (manned.units_of_eq (by simp) (by simp [unlocked]) (by rw [here]; rfl) rfl)
  | withdraw here => exact manned.withdraw here
  | close here =>
      rw [here] at grips units
      have kept := Race.holder_close shift.race
      refine ⟨?_, (Race.owed_move (by simp) (by simp)).trans units, manned.keeper_of_eq kept rfl⟩
      simp only [Shift.step, kept]
      exact grips
  | perish here =>
      have idle := inside (by rw [here]; rfl)
      rw [here] at grips
      obtain ⟨i, holds⟩ := grips
      refine ⟨?_, manned.units_of_eq (by simp) (by simp [holds]) (by rw [here]; rfl) rfl,
        fun same => absurd same idle⟩
      simp [note, Shift.step, Race.die_of_bearer holds, Post.Grips]
  | founder here =>
      have outside : shift.post.inside = false ∧ shift.post.units = 0 := by
        rcases here with here | ⟨job, here⟩ <;> rw [here] <;> exact ⟨rfl, rfl⟩
      exact ⟨(Post.grips_of_outside outside.1).1 grips, units.trans outside.2,
        manned.keeper_of_eq rfl rfl⟩
  | approach here unlocked => exact manned.approach unlocked
  | retreat here => exact manned.retreat here
  | shut here =>
      have kept := Race.holder_close shift.race
      refine ⟨?_, (Race.owed_move (by simp) (by simp)).trans units, fun same => by simp at same⟩
      simp only [kept]
      exact grips
  | join events here gone => exact ⟨grips, units, fun same => by simp at same⟩

/-! ### Races -/

/-- A move of a shift is a move of the race, or none.  Only a thread without a unit asks for
one. -/
theorem Step.race_eq (step : shift.Step m after) :
    after.race = shift.race
      ∨ ∃ own : Move, after.race = shift.race.move own
        ∧ (own = .acquire → shift.post = .asking) := by
  have other : ∀ {own : Move}, own ≠ .acquire → own = .acquire → shift.post = .asking :=
    fun differs same => absurd same differs
  cases step with
  | drift | unwrap | drop | fall | answer | founder | join => exact .inl rfl
  | elsewhere foreign => exact .inr ⟨_, rfl, other foreign.1⟩
  | acquire here | sendHome here => exact .inr ⟨.acquire, rfl, fun _ => here⟩
  | begin => exact .inr ⟨.markReady, rfl, other (by simp)⟩
  | reach => exact .inr ⟨.take, rfl, other (by simp)⟩
  | leave | approach => exact .inr ⟨.withdraw, rfl, other (by simp)⟩
  | close | shut => exact .inr ⟨.close, rfl, other (by simp)⟩
  | perish => exact .inr ⟨.die, rfl, other (by simp)⟩
  | openUp | findNothing | take | giveBack | part | partWithNothing | withdraw | retreat =>
      exact .inr ⟨.carryOn, rfl, other (by simp)⟩

/-- Each step of a shift is one of its race, or none. -/
theorem Traced.step {settings : Settings} (traced : shift.Traced settings)
    (manned : shift.Manned) (step : shift.Step m after) : after.Traced settings := by
  obtain ⟨moves, reached, inTurn⟩ := traced
  rcases step.race_eq with same | ⟨own, moved, asks⟩
  · exact ⟨moves, reached.trans same.symm, inTurn⟩
  · refine ⟨moves ++ [own], ?_, Race.inTurn_concat inTurn fun acquires => ?_⟩
    · rw [Race.run_append, reached, moved]
      rfl
    · rw [reached, manned.units, asks acquires]
      rfl

theorem Known.step {settings : Settings} (known : shift.Known settings)
    (step : shift.Step m after) : after.Known settings :=
  ⟨known.manned.step step, known.traced.step known.manned step⟩

/-- What every step preserves holds along every run. -/
theorem run_induction {settings : Settings} {P : Shift world → Prop}
    (known : shift.Known settings) (base : P shift)
    (step : ∀ {before m after}, before.Known settings → P before → before.Step m after →
      P after) (moves : List (ShiftMove world)) : P (shift.run moves) := by
  induction moves generalizing shift with
  | nil => exact base
  | cons m rest ih =>
      rw [run_cons]
      rcases shift.move_eq_or_step m with same | changed
      · rw [same]
        exact ih known base
      · exact ih (known.step changed) (step known base changed)

/-- All that is known of races is known at every moment of a shift. -/
theorem Known.run {settings : Settings} (known : shift.Known settings)
    (moves : List (ShiftMove world)) : (shift.run moves).Known settings :=
  run_induction known known (fun _ known step => known.step step) moves

end Shift

end AttachService
