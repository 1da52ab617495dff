/-
Module: AttachService.Proofs.Relaying.Steps
Purpose: All that a move of a relaying can come to, and the race that it is seen from the intake.
Trusted boundary: none
Main exports: Relaying.Step, Relaying.move_eq_or_step, Relaying.run_preserves, Relaying.trail,
  Relaying.race_run
-/
import AttachService.Proofs.Race.Frames
import AttachService.Relaying

namespace AttachService.Relaying

/-!
Seen from the intake, the thread is nobody: it only brings producers.  So the moves of a relaying
leave a trail of moves of a race, and what is known of races is known of what they lead to.
-/

variable {r after : Relaying} {m : RelayMove}

/-- What a move that changes anything comes to. -/
inductive Step (r : Relaying) : RelayMove → Relaying → Prop where
  | others {m : Move} (nobody : ∀ request, m ≠ .arrive request) :
      Step r (.atIntake m) { r with race := r.race.move m }
  | come (request : Submission) :
      Step r (.atIntake (.arrive request)) (r.come request (.foreign request))
  | hear {arrival : Arrival} {rest : List Arrival} (here : r.post = .listening)
      (next : r.ahead = arrival :: rest) :
      Step r .work { r with ahead := rest, heard := r.heard ++ [arrival], post := arrival.post }
  /-- The stream has ended. -/
  | hearNothing (here : r.post = .listening) (exhausted : r.ahead = []) :
      Step r .work { r with post := .gone }
  | start {channel : String} (here : r.post = .starting channel) :
      Step r .work { r.come (Relay.submission channel) (.relayed channel) with post := .listening }
  | report {words : String} (here : r.post = .reporting words) :
      Step r .work
        { r with events := r.events ++ [.notice (.signalFailed words)], post := .listening }
  | heed (here : r.post = .listening) (told : r.keeper ≠ .away) :
      Step r .heed { r with post := .gone }
  | finish {k : Nat} {channel : String} {answer : Except Refusal Unit} (fresh : k ∉ r.finished)
      (answered : r.answer? k = some (channel, answer)) :
      Step r (.finish k)
        { r with
          finished := r.finished ++ [k]
          events := r.events ++ Relaying.report channel answer }
  | tell (here : r.keeper = .away) : Step r .stop { r with keeper := .waiting }
  | join (here : r.keeper = .waiting) (gone : r.post = .gone) :
      Step r .stop { r with keeper := .done }

/-! ### The inversion -/

/-- The thread never waits for anybody. -/
theorem gone_or_step_work (r : Relaying) : r.post = .gone ∧ r.work = r ∨ r.Step .work r.work := by
  unfold work
  split
  · next here =>
      split
      · next exhausted => exact .inr (.hearNothing here exhausted)
      · next next => exact .inr (.hear here next)
  · next here => exact .inr (.start here)
  · next here => exact .inr (.report here)
  · next here => exact .inl ⟨here, rfl⟩

/-- A producer of the thread that has its answer reports it, once. -/
theorem finish_of_answer {k : Nat} {channel : String} {answer : Except Refusal Unit}
    (fresh : k ∉ r.finished) (answered : r.answer? k = some (channel, answer)) :
    r.finish k = { r with
      finished := r.finished ++ [k]
      events := r.events ++ Relaying.report channel answer } := by
  rw [finish, if_neg fresh, answered]

/-- A producer of the thread that has no answer yet, or is through, does nothing. -/
theorem eq_or_step_finish (r : Relaying) (k : Nat) :
    r.finish k = r ∨ r.Step (.finish k) (r.finish k) := by
  by_cases done : k ∈ r.finished
  · exact .inl (if_pos done)
  · cases answered : r.answer? k with
    | none =>
        left
        rw [finish, if_neg done, answered]
    | some told =>
        right
        rw [finish_of_answer done answered]
        exact .finish done answered

/-- The thread leaves if it was told to while it listens. -/
theorem eq_or_step_heed (r : Relaying) : r.heed = r ∨ r.Step .heed r.heed := by
  unfold heed
  split
  · next told => exact .inr (.heed told.1 told.2)
  · exact .inl rfl

/-- The keeper tells it to, and then waits for it to be gone. -/
theorem eq_or_step_stop (r : Relaying) : r.stop = r ∨ r.Step .stop r.stop := by
  unfold stop
  split
  · next here => exact .inr (.tell here)
  · next here =>
      split
      · next gone => exact .inr (.join here gone)
      · exact .inl rfl
  · exact .inl rfl

/-- A move changes nothing, or it is one of the steps. -/
theorem move_eq_or_step (r : Relaying) (m : RelayMove) : r.move m = r ∨ r.Step m (r.move m) := by
  cases m with
  | atIntake m =>
      cases m with
      | arrive request => exact .inr (.come request)
      | _ => exact .inr (.others (by simp))
  | work => exact (gone_or_step_work r).imp_left And.right
  | heed => exact eq_or_step_heed r
  | finish k => exact eq_or_step_finish r k
  | stop => exact eq_or_step_stop r

/-- What holds already, and after each of its steps, holds after a move. -/
theorem move_cases {P : Relaying → Prop} (same : P r)
    (changed : ∀ {after}, r.Step m after → P after) : P (r.move m) := by
  rcases r.move_eq_or_step m with unchanged | step
  · rw [unchanged]
    exact same
  · exact changed step

/-! ### Runs -/

@[simp] theorem run_nil (r : Relaying) : r.run [] = r := rfl

@[simp] theorem run_cons (r : Relaying) (m : RelayMove) (moves : List RelayMove) :
    r.run (m :: moves) = (r.move m).run moves := rfl

theorem run_append (r : Relaying) (first second : List RelayMove) :
    r.run (first ++ second) = (r.run first).run second :=
  List.foldl_append

/-- What every step preserves holds along every run. -/
theorem run_preserves {Inv : Relaying → Prop}
    (step : ∀ {before m after}, Inv before → before.Step m after → Inv after)
    (inv : Inv r) (moves : List RelayMove) : Inv (r.run moves) := by
  induction moves generalizing r with
  | nil => exact inv
  | cons m rest ih => exact ih (move_cases inv (step inv))

/-! ### The race -/

/-- What a move is, seen from the intake. -/
def raceMove? (r : Relaying) : RelayMove → Option Move
  | .atIntake m => some m
  | .work =>
      match r.post with
      | .starting channel => some (.arrive (Relay.submission channel))
      | _ => none
  | .heed | .finish _ | .stop => none

/-- What these moves are, seen from the intake. -/
def trail : Relaying → List RelayMove → List Move
  | _, [] => []
  | r, m :: rest => (r.raceMove? m).toList ++ trail (r.move m) rest

/-- What is seen from the intake is seen move by move. -/
theorem trail_append (r : Relaying) (first second : List RelayMove) :
    r.trail (first ++ second) = r.trail first ++ (r.run first).trail second := by
  induction first generalizing r with
  | nil => rfl
  | cons m rest ih =>
      rw [List.cons_append, trail, trail, ih, run_cons, List.append_assoc]

theorem race_work (r : Relaying) : r.work.race = r.race.run (r.raceMove? .work).toList := by
  cases here : r.post with
  | listening => cases next : r.ahead <;> simp [work, raceMove?, here, next]
  | starting channel => simp [work, raceMove?, come, here]
  | reporting | gone => simp [work, raceMove?, here]

/-- A report concerns nobody at the intake. -/
theorem race_finish (r : Relaying) (k : Nat) : (r.finish k).race = r.race := by
  unfold finish
  split
  · rfl
  · split <;> rfl

/-- A move of the relay is one of the race, or none. -/
theorem race_move (r : Relaying) (m : RelayMove) :
    (r.move m).race = r.race.run (r.raceMove? m).toList := by
  cases m with
  | atIntake m => cases m <;> rfl
  | work => exact race_work r
  | finish k => exact race_finish r k
  | heed =>
      change r.heed.race = r.race
      unfold heed
      split <;> rfl
  | stop =>
      change r.stop.race = r.race
      unfold stop
      split
      · rfl
      · split <;> rfl
      · rfl

/-- What becomes of the intake is what becomes of it in the race that the trail tells of. -/
theorem race_run (r : Relaying) (moves : List RelayMove) :
    (r.run moves).race = r.race.run (r.trail moves) := by
  induction moves generalizing r with
  | nil => rfl
  | cons m rest ih => rw [run_cons, ih, race_move, trail, Race.run_append]

end AttachService.Relaying
