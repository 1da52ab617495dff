/-
Module: AttachService.Proofs.Shift.Deserted
Purpose: However the thread has come to its end, nothing is accepted from then on, what is queued
  stays queued, and the keeper comes back.
Trusted boundary: none
Main exports: Shift.Still, Shift.still_run, Shift.ahead, Shift.Returns, Shift.returns_of_gone,
  Shift.Deserted, Shift.deserted_for_good
-/
import AttachService.Proofs.Shift.Returning
import AttachService.Stream.Exchange

namespace AttachService.Shift

variable {world : Type} {settings : Settings} {past shift after : Shift world} {dead : Bool}

/-! ### Nothing comes in, and nothing goes out -/

/-- Nothing has happened to the requests since then, and whoever came later was not welcome. -/
structure Still (settings : Settings) (past shift : Shift world) : Prop where
  record : shift.record = past.record
  race : past.race.Unchanged shift.race
  fruitless : ∀ {k : Nat} {p : Producer}, past.race.producers.length ≤ k →
    shift.race.producers[k]? = some p → Race.Fruitless settings p

theorem still_refl (settings : Settings) (shift : Shift world) : Still settings shift shift where
  record := rfl
  race := ⟨rfl, rfl, rfl, rfl⟩
  fruitless beyond found := by
    rw [List.getElem?_eq_none beyond] at found
    cases found

/-- How many steps the keeper has yet to take, if the thread is gone. -/
def ahead (shift : Shift world) : Nat :=
  match shift.keeper, shift.race.holder with
  | .away, _ => 6
  | .withdrawing, some .closer => 5
  | .withdrawing, some .withdrawer => 4
  | .withdrawing, _ => 3
  | .closing, _ => 2
  | .waiting, _ => 1
  | .done _, _ => 0

theorem ahead_le (shift : Shift world) : shift.ahead ≤ 6 := by
  unfold ahead
  split <;> decide

/-- The keeper is back when it has no step left to take. -/
theorem ahead_eq_zero_iff (departing : shift.Departing) (gone : shift.post = .gone dead) :
    shift.ahead = 0 ↔ shift.keeper = .done dead := by
  have keeper := departing.keeper
  cases here : shift.keeper with
  | away | closing | waiting => simp [ahead, here]
  | withdrawing =>
      simp only [ahead, here]
      split <;> first
        | contradiction
        | simp
  | done other =>
      rw [here] at keeper
      cases Post.gone.inj (gone.symm.trans keeper)
      simp [ahead, here]

variable [Transport world] {m : ShiftMove world}

/-- A thread that is gone does nothing any more. -/
theorem Step.same_of_gone (step : shift.Step m after) (gone : shift.post = .gone dead) :
    after.post = shift.post ∧ after.record = shift.record := by
  cases step with
  | elsewhere | drift | approach | retreat | shut | join => exact ⟨rfl, rfl⟩
  | begin here | openUp here | acquire here | sendHome here | reach here | findNothing here
  | take here | giveBack here | part here | partWithNothing here | unwrap here | drop here
  | fall here | answer here | leave here | withdraw here | close here | perish here =>
      cases here.symm.trans gone
  | founder here =>
      rcases here with here | ⟨job, here⟩
      · cases here.symm.trans gone
      · cases here.symm.trans gone

theorem gone_move (gone : shift.post = .gone dead) (m : ShiftMove world) :
    (shift.move m).post = .gone dead := by
  rcases shift.move_eq_or_step m with same | step
  · rw [same, gone]
  · rw [(step.same_of_gone gone).1, gone]

theorem gone_run (gone : shift.post = .gone dead) (moves : List (ShiftMove world)) :
    (shift.run moves).post = .gone dead := by
  induction moves generalizing shift with
  | nil => exact gone
  | cons m rest ih => exact ih (gone_move gone m)

/-- Whatever anybody does now, nothing happens to the requests, and nobody is welcome. -/
theorem Still.step (still : Still settings past shift) (left : past.Left)
    (gone : shift.post = .gone dead) (known : shift.Known settings) (step : shift.Step m after) :
    Still settings past after := by
  have record := (step.same_of_gone gone).2.trans still.record
  have intake := still.race.intake
  have grips := known.manned.grips
  rw [gone] at grips
  rcases step.race_eq with same | ⟨own, moved, asks⟩
  · refine ⟨record, ?_, ?_⟩ <;> rw [same]
    · exact still.race
    · exact still.fruitless
  · have closed : shift.race.intake.pending.closed = true := by rw [intake, left.pending]
    have unready : shift.race.intake.ready = false := by rw [intake, left.unready]
    have busy : own ≠ .acquire := fun same => by cases gone.symm.trans (asks same)
    refine ⟨record, ?_, fun beyond found => ?_⟩
    · rw [moved]
      exact still.race.trans
        (Race.unchanged_move (known.always (Race.shut_run settings)) closed grips busy)
    · rw [moved] at found
      exact Race.Fruitless.of_move (known.always (Race.tenure_run settings)) known.settings_eq
        unready (still.fruitless beyond) found

/-- Once the thread is gone, nothing happens to the requests for good. -/
theorem still_run (known : past.Known settings) (left : past.Left) (gone : past.post = .gone dead)
    (later : List (ShiftMove world)) : Still settings past (past.run later) := by
  have both := run_induction
    (P := fun shift => shift.post = .gone dead ∧ Still settings past shift)
    known ⟨gone, still_refl settings past⟩ (fun known both step =>
      ⟨(step.same_of_gone both.1).1.trans both.1, both.2.step left both.1 known step⟩) later
  exact both.2

/-! ### The keeper comes back -/

/-- Each step of the keeper brings it nearer, unless it has to wait for the lock. -/
theorem ahead_stop (manned : shift.Manned) (gone : shift.post = .gone dead)
    (free : shift.keeper = .away → shift.race.holder = none) :
    (shift.move .stop).ahead = shift.ahead - 1 := by
  cases here : shift.keeper with
  | away =>
      have unlocked := free here
      have locks : (shift.race.move .withdraw).holder = some .closer :=
        Race.holder_lock unlocked .closer
      simp [ahead, move, stop, here, unlocked, locks]
  | withdrawing =>
      rcases (manned.keeper here).1 with holds | holds | holds <;>
        simp [ahead, move, stop, here, holds, Race.move, Race.carryOn]
  | closing | done => simp [ahead, move, stop, here]
  | waiting => cases dead <;> simp [ahead, move, stop, here, gone]

/-- Nobody sets the keeper back, or brings it nearer. -/
theorem ahead_move (manned : shift.Manned) (gone : shift.post = .gone dead) (other : m ≠ .stop) :
    (shift.move m).ahead = shift.ahead := by
  cases m with
  | stop => exact absurd rfl other
  | drift | work | collapse => simp [ahead, move, work, collapse, gone]
  | others m =>
      rcases shift.move_eq_or_step (.others m) with same | step
      · rw [same]
      · generalize shift.move (.others m) = after at step
        cases step with
        | elsewhere foreign free =>
            cases here : shift.keeper with
            | away | closing | waiting | done => simp only [ahead, here]
            | withdrawing =>
                have kept := manned.holder_elsewhere foreign free (by simp [occupied, here])
                simp only [ahead, here, kept]

theorem keeper_stop (free : shift.keeper = .away → shift.race.holder = none) :
    (shift.move .stop).keeper ≠ .away := by
  cases here : shift.keeper with
  | away => simp [move, stop, here, free here]
  | withdrawing =>
      simp only [move, stop, here]
      split <;> simp
  | closing | done => simp [move, stop, here]
  | waiting =>
      simp only [move, stop, here]
      split <;> simp [here]

/-- A keeper that need not wait for the lock comes back. -/
theorem ahead_run_stop (known : shift.Known settings) (gone : shift.post = .gone dead)
    (free : shift.keeper = .away → shift.race.holder = none) {n : Nat} (near : shift.ahead ≤ n) :
    (shift.run (List.replicate n .stop)).ahead = 0 := by
  induction n generalizing shift with
  | zero => exact Nat.le_zero.1 near
  | succ n ih =>
      have onward : (shift.move .stop).Known settings := known.run [.stop]
      rw [List.replicate_succ, run_cons]
      apply ih onward
      · exact gone_move gone .stop
      · exact fun away => absurd away (keeper_stop free)
      · rw [ahead_stop known.manned gone free]
        omega

/-- A producer that comes when the thread is gone looks as often as it may, and is told so. -/
theorem answered_of_fruitless {k : Nat} {p : Producer} (known : shift.Known settings)
    (unready : shift.race.intake.ready = false) (found : shift.race.producers[k]? = some p)
    (fruitless : Race.Fruitless settings p) :
    p.progress = .answered (.error .disabled)
      ∨ ∃ sleeps left, p.progress = .waiting sleeps ∧ sleeps + left = settings.pollAttempts
        ∧ shift.run (List.replicate (left + 1) (.others (.proceed k)))
          = { shift with race := shift.race.advance k (.answered (.error .disabled)) } := by
  rcases fruitless with ⟨sleeps, most, here⟩ | told
  · obtain ⟨left, patience⟩ := Nat.exists_eq_add_of_le most
    refine .inr ⟨sleeps, left, here, patience.symm, ?_⟩
    have own : ∀ m ∈ List.replicate (left + 1) (Move.proceed k),
        m = .carryOn ∧ shift.occupied = false ∨ ∃ k, m = .proceed k :=
      fun m member => .inr ⟨k, List.eq_of_mem_replicate member⟩
    have patient : sleeps + left = shift.race.intake.settings.pollAttempts := by
      rw [known.settings_eq, patience]
    rw [← List.map_replicate, run_others own, ← Race.press_of_unready found here unready patient]
    rfl
  · exact .inl told

/-- How the keeper comes back once the thread is gone. -/
structure Returns (shift : Shift world) (dead : Bool) : Prop where
  /-- It waits for nothing but the lock. -/
  nearer : (shift.keeper = .away → shift.race.holder = none) →
    (shift.move .stop).ahead = shift.ahead - 1
  /-- Nobody else sets it back. -/
  kept : ∀ m, m ≠ .stop → (shift.move m).ahead = shift.ahead
  back : shift.ahead = 0 ↔ shift.keeper = .done dead
  /-- Whoever has the lock gives it back with steps of its own, and then the keeper needs nobody. -/
  joins : ∃ others : List Move, (∀ m ∈ others, m = .carryOn ∨ ∃ k, m = .proceed k)
    ∧ (shift.run (others.map .others ++ List.replicate 6 .stop)).keeper = .done dead

/-- If the thread is gone, the keeper comes back. -/
theorem returns_of_gone (known : shift.Known settings) (departing : shift.Departing)
    (gone : shift.post = .gone dead) : shift.Returns dead := by
  have joined : ∀ moves : List (ShiftMove world),
      ((shift.run moves).keeper = .away → (shift.run moves).race.holder = none) →
        (shift.run (moves ++ List.replicate 6 .stop)).keeper = .done dead := by
    intro moves free
    have still := gone_run gone moves
    have later := gone_run gone (moves ++ List.replicate 6 .stop)
    rw [← ahead_eq_zero_iff (departing.run known _) later, run_append]
    exact ahead_run_stop (known.run moves) still free (ahead_le _)
  refine ⟨ahead_stop known.manned gone, fun m => ahead_move known.manned gone,
    ahead_eq_zero_iff departing gone, ?_⟩
  by_cases here : shift.keeper = .away
  · have grips := known.manned.grips
    rw [gone] at grips
    obtain ⟨others, own, released⟩ :=
      Race.exists_released (known.always (Race.tenure_run settings)) grips
    have free : shift.occupied = false := by simp [occupied, gone, here, Post.inside]
    refine ⟨others, own, joined _ fun _ => ?_⟩
    rw [run_others fun m member => (own m member).imp_left fun same => ⟨same, free⟩]
    exact released
  · exact ⟨[], by simp, joined [] fun away => absurd away here⟩

/-! ### What is left for good -/

/-- What is known of `past`, where the thread is gone, and of any state `now` later than that. -/
structure Deserted (settings : Settings) (past now : Shift world) (dead : Bool) : Prop where
  closed : past.race.intake.closed = true ∧ past.race.intake.pending.closed = true
  unready : past.race.intake.ready = false
  /-- Nothing that anybody does later changes the intake.  What is queued stays queued. -/
  intake : now.race.intake = past.race.intake
  unmarked : past.race.intake.markReady = past.race.intake
  accepted : now.race.accepted = past.race.accepted
  record : now.record = past.record
  /-- Requests were seen to in the order in which they were accepted. -/
  order : past.race.accepted.map (·.2)
    = past.record.map (·.1) ++ past.race.intake.chains.queued
  /-- A producer that came later was told that it is not welcome, or will be when it has looked
  as often as it may, and nothing else comes of its steps. -/
  latecomers : ∀ {k : Nat} {p : Producer}, past.race.producers.length ≤ k →
    now.race.producers[k]? = some p →
      p.progress = .answered (.error .disabled)
        ∨ ∃ sleeps left, p.progress = .waiting sleeps ∧ sleeps + left = settings.pollAttempts
          ∧ now.run (List.replicate (left + 1) (.others (.proceed k)))
            = { now with race := now.race.advance k (.answered (.error .disabled)) }
  ended : past.Ended dead
  /-- Whoever makes the intake ready, shuts it down or counts its slots gets as far with a
  poisoned lock as with any other one. -/
  indifferent : ∀ (poisoned : Bool) {moves : List Move},
    (∀ m ∈ moves, m = .markReady ∨ m = .withdraw ∨ m = .carryOn ∨ m = .close) →
      (now.race.flagged poisoned).run moves = (now.race.run moves).flagged poisoned
  counts : ∀ poisoned : Bool,
    (now.race.flagged poisoned).intake.freeCount = now.race.intake.freeCount
      ∧ (now.race.flagged poisoned).intake.queuedCount = now.race.intake.queuedCount
  returns : now.Returns dead

/-- Once the thread is gone, however it went, the intake is shut for good: nothing is accepted or
taken any more, and the keeper comes back. -/
theorem deserted_for_good (settings : Settings) (outside : world) (commands : CommandTable)
    (moves later : List (ShiftMove world))
    (gone : ((start settings outside commands).run moves).post = .gone dead) :
    Deserted settings ((start settings outside commands).run moves)
      ((start settings outside commands).run (moves ++ later)) dead := by
  have known := (known_start settings outside commands).run moves
  have recorded := recorded_run settings outside commands moves
  have departing := departing_run settings outside commands moves
  rw [run_append]
  generalize (start settings outside commands).run moves = past at *
  have left := known.left recorded departing gone
  have still := still_run known left gone later
  have knownLater := known.run later
  exact {
    closed := ⟨left.closed, left.pending⟩
    unready := left.unready
    intake := still.race.intake
    unmarked := if_pos left.closed
    accepted := still.race.accepted
    record := still.record
    order := left.accepted
    latecomers := by
      intro k p beyond found
      have unready : (past.run later).race.intake.ready = false := by
        rw [still.race.intake, left.unready]
      exact answered_of_fruitless knownLater unready found (still.fruitless beyond found)
    ended := known.ended recorded departing gone
    indifferent := fun poisoned _ => Race.run_flagged _ poisoned
    counts := fun _ => ⟨rfl, rfl⟩
    returns := returns_of_gone knownLater (departing.run known later) (gone_run gone later) }

/-! Two requests are accepted.  The thread dies with the slot of the first one in its hands, and
then somebody tries to make the intake ready for a third one. -/

/-- A shift on which nobody is there to be served. -/
def emptyStreet : Shift Exchange := start ⟨1000, 10, 10000, "/tmp/", ""⟩ ⟨#[]⟩ .empty

/-- The thread is gone after these moves. -/
def struckDown : List (ShiftMove Exchange) :=
  [.others (.arrive ⟨1, "help", .replicate _ "", "/tmp/1"⟩),
    .others (.arrive ⟨1, "stop", .replicate _ "", "/tmp/2"⟩)] ++ List.replicate 3 .work
    ++ (List.range 2).flatMap (fun k => List.replicate 8 (.others (.proceed k)))
    ++ List.replicate 3 .work ++ [.collapse] ++ List.replicate 5 .work

/-- The third producer has looked once, and the keeper is about to stop the thread. -/
def struckDownLater : List (ShiftMove Exchange) :=
  [.others .markReady, .others .carryOn, .others .carryOn,
    .others (.arrive ⟨1, "help", .replicate _ "", "/tmp/3"⟩), .others (.proceed 2), .stop]

/-- The slot is lost, the second request stays queued, and the third producer is not welcome. -/
theorem deserted_for_good_struck_down :
    (emptyStreet.run struckDown).post = .gone true
      ∧ (emptyStreet.run struckDown).record
        = [(⟨1, "help", .replicate _ "", "/tmp/1"⟩, .lost)]
      ∧ (emptyStreet.run struckDown).race.intake.chains.queued
        = [⟨1, "stop", .replicate _ "", "/tmp/2"⟩]
      ∧ Deserted ⟨1000, 10, 10000, "/tmp/", ""⟩ (emptyStreet.run struckDown)
        (emptyStreet.run (struckDown ++ struckDownLater)) true := by
  have gone : (emptyStreet.run struckDown).post = .gone true := by decide +kernel
  exact ⟨gone, by decide +kernel, by decide +kernel, deserted_for_good _ _ _ _ _ gone⟩

end AttachService.Shift
