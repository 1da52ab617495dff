/-
Module: AttachService.Proofs.Shift.Returning
Purpose: Nothing keeps the thread from its end, or its keeper from coming back, if everybody who
  is there goes on.
Trusted boundary: none
Main exports: Shift.toGo, Shift.Free, Shift.Step.nearer, Shift.Step.kept, Shift.Leads,
  Shift.run_others, Shift.Finishes, Shift.Known.finishes
-/
import AttachService.Proofs.Race.Aftermath
import AttachService.Proofs.Shift.Record

namespace AttachService

/-!
As long as requests come in, the thread has more and more to do.  Once the semaphore is closed
it has not: `Shift.toGo` bounds the steps that are left, and nobody sets the thread back.
-/

/-- How many steps a thread at this post is from its end, if it takes no further unit. -/
def Post.toGo : Post → Option Holder → Nat
  | .owed, _ => 12
  | .taking, _ => 11
  | .bearing _, _ => 10
  | .parting _, _ | .starting, _ => 9
  | .holding _, _ | .opening, some .opener => 8
  | .serving .., _ | .opening, _ => 7
  | .asking, _ => 6
  | .leaving _, _ => 5
  | .withdrawing _, some .closer => 4
  | .withdrawing _, some .withdrawer => 3
  | .withdrawing _, _ => 2
  | .closing _, _ => 1
  | .gone _, _ => 0

theorem Post.toGo_of_outside {post : Post} (outside : post.inside = false)
    (holder holder' : Option Holder) : post.toGo holder = post.toGo holder' := by
  cases post with
  | starting | asking | owed | holding | serving | leaving | closing | gone => rfl
  | opening | taking | bearing | parting | withdrawing => cases outside

/-- A move by which somebody goes on who is there. -/
def ShiftMove.GoesOn {world : Type} : ShiftMove world → Prop
  | .work | .stop | .others .carryOn | .others (.proceed _) => True
  | _ => False

namespace Shift

variable {world : Type} {settings : Settings} {shift after : Shift world}

/-- How many steps the thread has yet to take at most, once there will be no more units.  One
that is left costs it seven: to take it, and six more until it asks for another one. -/
def toGo (shift : Shift world) : Nat :=
  7 * shift.race.intake.pending.count + shift.post.toGo shift.race.holder

/-- Nobody else has the lock. -/
def Free (shift : Shift world) : Prop :=
  shift.post.inside = true ∨ shift.race.holder = none

/-- If the thread does not have the lock either, nobody has it. -/
theorem Free.unlocked (free : shift.Free) (outside : shift.post.inside = false) :
    shift.race.holder = none :=
  free.resolve_left (by simp [outside])

/-- A step of the thread with which it takes no unit. -/
theorem toGo_step_lt {m : Move} {post : Post} (asks : m ≠ .acquire) (other : ∀ k, m ≠ .proceed k)
    (nearer : post.toGo (shift.race.move m).holder < shift.post.toGo shift.race.holder) :
    (shift.step m post).toGo < shift.toGo := by
  have count : (shift.race.move m).intake.pending.count = shift.race.intake.pending.count :=
    Race.count_move asks fun k _ _ _ => other k
  simp only [toGo, step, count]
  omega

/-- What somebody else does, with no unit asked for or announced. -/
theorem toGo_eq_of_move (m : Move) (asks : m ≠ .acquire)
    (quiet : ∀ k request i,
      shift.race.holder = some (.producer k request (.reserved i)) → m ≠ .proceed k)
    (moved : after.race = shift.race.move m) (post : after.post = shift.post)
    (same : shift.post.toGo (shift.race.move m).holder = shift.post.toGo shift.race.holder) :
    after.toGo = shift.toGo := by
  rw [toGo, moved, post, Race.count_move asks quiet, same, toGo]

variable [Transport world] {m : ShiftMove world}

/-! ### The way of the thread -/

/-- A step of the thread brings it nearer to its end. -/
theorem Step.nearer (step : shift.Step .work after) (manned : shift.Manned) :
    after.toGo < shift.toGo := by
  have grips := manned.grips
  cases step with
  | begin here unlocked =>
      have holds := Race.holder_lock unlocked .opener
      exact toGo_step_lt (by simp) (by simp) (by simp [here, Race.move, holds, Post.toGo])
  | leave here unlocked =>
      have holds := Race.holder_lock unlocked .closer
      exact toGo_step_lt (by simp) (by simp) (by simp [here, Race.move, holds, Post.toGo])
  | openUp here =>
      rw [here] at grips
      refine toGo_step_lt (by simp) (by simp) ?_
      rcases grips with holds | holds <;>
        simp [here, holds, Race.move, Race.carryOn, Post.toGo]
  | acquire here granted =>
      have taken := Semaphore.count_of_acquire granted
      simp only [toGo, Shift.step, Race.move_acquire_of_granted granted, here, taken, Post.toGo]
      omega
  | sendHome here refused =>
      simp [toGo, Shift.step, Race.move_acquire_of_refused refused, here, Post.toGo]
  | reach here | findNothing here | take here | giveBack here | part here | close here =>
      exact toGo_step_lt (by simp) (by simp) (by simp [here, Post.toGo])
  | partWithNothing here =>
      exact toGo_step_lt (by simp) (by simp) (by simp [here, Shift.step, Post.toGo])
  | unwrap here | drop here | fall here | answer here =>
      simp [toGo, here, Post.toGo, note, Shift.answer]
  | withdraw here =>
      rw [here] at grips
      refine toGo_step_lt (by simp) (by simp) ?_
      rcases grips with holds | holds | holds <;>
        simp [here, holds, Race.move, Race.carryOn, Post.toGo]

/-- A thread that had the lock has it still, or has given it back. -/
theorem Free.step (free : shift.Free) (manned : shift.Manned) (step : shift.Step .work after) :
    after.Free := by
  have grips := manned.grips
  have unlocked := free.unlocked
  cases step with
  | begin | reach | findNothing | take | giveBack | leave => exact .inl rfl
  | openUp here | withdraw here =>
      simp only [Free, Shift.step]
      split
      · next released => exact .inr (Option.isNone_iff_eq_none.1 released)
      · exact .inl rfl
  | acquire here granted =>
      refine .inr ?_
      simp only [Shift.step, Race.move_acquire_of_granted granted]
      exact unlocked (by rw [here]; rfl)
  | sendHome here refused =>
      refine .inr ?_
      simp only [Shift.step, Race.move_acquire_of_refused refused]
      exact unlocked (by rw [here]; rfl)
  | part here | partWithNothing here =>
      rw [here] at grips
      exact .inr (by rw [Shift.step, Race.carryOn_of_departing grips])
  | unwrap here | drop here | fall here | answer here =>
      exact .inr (unlocked (by rw [here]; rfl))
  | close here =>
      exact .inr ((Race.holder_close _).trans (unlocked (by rw [here]; rfl)))

/-- A thread that has the lock never waits. -/
theorem step_work_of_inside (inside : shift.post.inside = true) :
    shift.Step .work (shift.move .work) := by
  rcases waits_or_step_work shift with ⟨-, waits⟩ | step
  · cases waits with
    | lock outside => cases outside.symm.trans inside
    | unit here | gone here =>
        rw [here] at inside
        cases inside
  · exact step

/-- A thread that waits for nobody takes a step. -/
theorem Free.step_work (free : shift.Free) (closed : shift.race.intake.pending.closed = true)
    (busy : ∀ dead, shift.post ≠ .gone dead) : shift.Step .work (shift.move .work) := by
  rcases waits_or_step_work shift with ⟨-, waits⟩ | step
  · cases waits with
    | lock outside locked =>
        rw [free.unlocked outside] at locked
        cases locked
    | unit here blocked =>
        cases closed.symm.trans (Semaphore.acquire_eq_blocked_iff.1 blocked).2
    | gone here => exact absurd here (busy _)
  · exact step

/-- The thread does not move its keeper. -/
theorem Step.keeper_eq (step : shift.Step .work after) : after.keeper = shift.keeper := by
  cases step <;> rfl

/-- Once the semaphore is closed, nobody takes the thread back. -/
theorem Step.kept (step : shift.Step m after) (known : shift.Known settings)
    (closed : shift.race.intake.pending.closed = true) : after.toGo ≤ shift.toGo := by
  have manned := known.manned
  have shut := known.always (Race.shut_run settings)
  have quiet : ∀ {m : Move} k request i,
      shift.race.holder = some (.producer k request (.reserved i)) → m ≠ .proceed k :=
    fun k request i holds => absurd rfl (shut.not_welcomed (.inr closed) holds)
  have whole := step
  cases step with
  | @elsewhere m foreign free =>
      refine Nat.le_of_eq (toGo_eq_of_move m foreign.1 quiet rfl rfl ?_)
      cases inside : shift.post.inside with
      | false => exact Post.toGo_of_outside inside _ _
      | true => rw [manned.holder_elsewhere foreign free (by simp [occupied, inside])]
  | drift | join => exact Nat.le_refl _
  | begin | openUp | acquire | sendHome | reach | findNothing | take | giveBack | part
  | partWithNothing | unwrap | drop | fall | answer | leave | withdraw | close =>
      exact Nat.le_of_lt (whole.nearer manned)
  | perish here =>
      have count := Race.count_move (m := .die) (by simp) (quiet (m := .die))
      simp only [toGo, note, Shift.step, count, here, Post.toGo]
      omega
  | founder here =>
      rcases here with here | ⟨job, here⟩ <;> simp [toGo, note, here, Post.toGo]
  | approach here unlocked =>
      have outside := manned.outside_of_unlocked unlocked
      exact Nat.le_of_eq
        (toGo_eq_of_move .withdraw (by simp) quiet rfl rfl (Post.toGo_of_outside outside _ _))
  | retreat here =>
      have outside := (manned.keeper here).2
      exact Nat.le_of_eq
        (toGo_eq_of_move .carryOn (by simp) quiet rfl rfl (Post.toGo_of_outside outside _ _))
  | shut here =>
      exact Nat.le_of_eq
        (toGo_eq_of_move .close (by simp) quiet rfl rfl (by rw [Race.holder_close]))

/-! ### The way of the keeper -/

/-- If everybody who is there goes on, taking turns in some way, it comes to this. -/
def Leads (shift : Shift world) (P : Shift world → Prop) : Prop :=
  ∃ moves : List (ShiftMove world), (∀ m ∈ moves, m.GoesOn) ∧ P (shift.run moves)

namespace Leads

variable {P Q : Shift world → Prop}

theorem here (holds : P shift) : shift.Leads P := ⟨[], by simp, holds⟩

/-- One more move leads there as well. -/
theorem of_move (goesOn : m.GoesOn) (leads : (shift.move m).Leads P) : shift.Leads P := by
  obtain ⟨moves, own, reached⟩ := leads
  exact ⟨m :: moves, List.forall_mem_cons.2 ⟨goesOn, own⟩, reached⟩

/-- A way on from there is a way on from here. -/
theorem trans (leads : shift.Leads P)
    (onward : ∀ moves, P (shift.run moves) → (shift.run moves).Leads Q) : shift.Leads Q := by
  obtain ⟨moves, own, reached⟩ := leads
  obtain ⟨more, own', reached'⟩ := onward moves reached
  refine ⟨moves ++ more, List.forall_mem_append.2 ⟨own, own'⟩, ?_⟩
  rw [run_append]
  exact reached'

/-- The thread works until it has come as far as that. -/
theorem of_work (known : shift.Known settings) (start : Q shift)
    (onward : ∀ {between : Shift world}, between.Known settings → Q between →
      P between ∨ between.Step .work (between.move .work) ∧ Q (between.move .work)) :
    shift.Leads P := by
  induction far : shift.toGo using Nat.strongRecOn generalizing shift with
  | ind n ih =>
      rcases onward known start with reached | ⟨step, again⟩
      · exact .here reached
      · subst far
        exact .of_move (m := .work) trivial
          (ih _ (step.nearer known.manned) (known.step step) again rfl)

/-- The keeper takes so many steps. -/
theorem of_stop (n : Nat) (reached : P (shift.run (List.replicate n .stop))) : shift.Leads P := by
  refine ⟨List.replicate n .stop, fun m member => ?_, reached⟩
  rw [List.eq_of_mem_replicate member]
  trivial

end Leads

/-- Moves of producers, and of others while neither the thread nor its keeper has the lock. -/
theorem run_others {moves : List Move}
    (own : ∀ m ∈ moves, m = .carryOn ∧ shift.occupied = false ∨ ∃ k, m = .proceed k) :
    shift.run (moves.map .others) = { shift with race := shift.race.run moves } := by
  induction moves generalizing shift with
  | nil => rfl
  | cons m rest ih =>
      have moved : shift.move (.others m) = { shift with race := shift.race.move m } := by
        rcases own m List.mem_cons_self with ⟨rfl, free⟩ | ⟨k, rfl⟩
        · simp only [move, free]
          rfl
        · rfl
      rw [List.map_cons, run_cons, moved]
      exact ih fun m member => own m (List.mem_cons_of_mem _ member)

/-- Whoever has the lock gives it back. -/
theorem Known.leads_unlocked (known : shift.Known settings) :
    shift.Leads fun now => now.race.holder = none := by
  have manned := known.manned
  by_cases here : shift.keeper = .withdrawing
  · rcases (manned.keeper here).1 with holds | holds | holds
    · exact .of_stop 3 (by simp [run_cons, move, stop, here, holds, Race.move, Race.carryOn])
    · exact .of_stop 2 (by simp [run_cons, move, stop, here, holds, Race.move, Race.carryOn])
    · exact .of_stop 1 (by simp [run_cons, move, stop, here, holds, Race.move, Race.carryOn])
  · cases inside : shift.post.inside with
    | true =>
        refine .of_work (Q := Free) known (.inl inside) fun {between} known free => ?_
        cases inside : between.post.inside with
        | false => exact .inl (free.unlocked inside)
        | true =>
            have step := step_work_of_inside inside
            exact .inr ⟨step, free.step known.manned step⟩
    | false =>
        have other := (Post.grips_of_outside inside).1 manned.grips
        obtain ⟨moves, own, released⟩ :=
          Race.exists_released (known.always (Race.tenure_run settings)) other
        have free : shift.occupied = false := by simp [occupied, inside, here]
        refine ⟨moves.map .others, fun m member => ?_, ?_⟩
        · obtain ⟨own', within, rfl⟩ := List.mem_map.1 member
          rcases own own' within with rfl | ⟨k, rfl⟩ <;> trivial
        · rw [run_others fun m member => (own m member).imp_left fun same => ⟨same, free⟩]
          exact released

/-- The keeper has shut the intake down, and waits for the thread to be gone. -/
def Shutting (shift : Shift world) : Prop :=
  shift.race.holder = none ∧ shift.race.intake.pending.closed = true ∧ shift.keeper = .waiting

/-- A keeper that has withdrawn the intake has only to close the semaphore. -/
theorem Departing.leads_shutting_of_closing (departing : shift.Departing)
    (unlocked : shift.race.holder = none) (here : shift.keeper = .closing) :
    shift.Leads Shutting := by
  have withdrawn := departing.keeper
  rw [here] at withdrawn
  have stopped : shift.run [.stop]
      = { shift with race := shift.race.move .close, keeper := .waiting } := by
    simp only [run_cons, run_nil, Shift.move, stop, here]
  refine .of_stop 1 ?_
  rw [List.replicate_one, stopped]
  exact ⟨(Race.holder_close _).trans unlocked, Race.closed_of_close withdrawn, rfl⟩

/-- Wherever the keeper is, it comes to wait for the thread. -/
theorem Known.leads_shutting (known : shift.Known settings) (departing : shift.Departing)
    (unlocked : shift.race.holder = none) (undone : ∀ dead, shift.keeper ≠ .done dead) :
    shift.Leads Shutting := by
  cases here : shift.keeper with
  | away =>
      have closes : shift.Leads fun now => now.race.holder = none ∧ now.keeper = .closing := by
        refine .of_stop 4 ?_
        simp [run_cons, move, stop, here, unlocked, Race.move, Race.carryOn, Race.lock]
      exact closes.trans fun moves reached =>
        (departing.run known moves).leads_shutting_of_closing reached.1 reached.2
  | withdrawing => exact absurd here (known.manned.keeper_of_unlocked unlocked)
  | closing => exact departing.leads_shutting_of_closing unlocked here
  | waiting =>
      have closed := departing.keeper
      rw [here] at closed
      exact .here ⟨unlocked, closed, here⟩
  | done dead => exact absurd here (undone dead)

/-- Then the thread works until it is gone. -/
theorem Known.leads_gone (known : shift.Known settings) (shutting : shift.Shutting) :
    shift.Leads fun now => (∃ dead, now.post = .gone dead) ∧ now.keeper = .waiting := by
  obtain ⟨unlocked, closed, waits⟩ := shutting
  refine .of_work (Q := fun now => now.Free ∧ now.race.intake.pending.closed = true
    ∧ now.keeper = .waiting) known ⟨.inr unlocked, closed, waits⟩ ?_
  rintro between known ⟨free, closed, waits⟩
  by_cases gone : ∃ dead, between.post = .gone dead
  · exact .inl ⟨gone, waits⟩
  · have step := free.step_work closed (not_exists.1 gone)
    exact .inr ⟨step, free.step known.manned step, step.onward.2 closed,
      step.keeper_eq.trans waits⟩

/-- Whatever has come between, the keeper comes back. -/
theorem Known.leads_done (known : shift.Known settings) (departing : shift.Departing) :
    shift.Leads fun now => ∃ dead, now.keeper = .done dead := by
  refine known.leads_unlocked.trans fun moves unlocked => ?_
  by_cases undone : ∃ dead, (shift.run moves).keeper = .done dead
  · exact .here undone
  · have shuts := (known.run moves).leads_shutting (departing.run known moves) unlocked
      (not_exists.1 undone)
    refine shuts.trans fun later shutting => ?_
    refine (((known.run moves).run later).leads_gone shutting).trans ?_
    rintro last ⟨⟨dead, gone⟩, waits⟩
    refine .of_stop 1 ⟨dead, ?_⟩
    cases dead <;> simp [run_cons, move, stop, gone, waits]

/-- How the thread comes to its end, and its keeper back. -/
structure Finishes (shift : Shift world) : Prop where
  /-- Once there will be no more units, the thread waits for nothing but the lock, and each of its
  steps brings it nearer to its end. -/
  nearer : shift.race.intake.pending.closed = true → shift.Free →
    (∀ dead, shift.post ≠ .gone dead) → (shift.move .work).toGo < shift.toGo
  /-- Nobody sets it back then. -/
  kept : shift.race.intake.pending.closed = true → ∀ m, (shift.move m).toGo ≤ shift.toGo
  returns : shift.Leads fun now => ∃ dead, now.keeper = .done dead

/-- Nobody need wait for ever: everybody who is there has steps to take that bring the keeper
back. -/
theorem Known.finishes (known : shift.Known settings) (departing : shift.Departing) :
    shift.Finishes where
  nearer closed free busy := (free.step_work closed busy).nearer known.manned
  kept closed m := by
    rcases shift.move_eq_or_step m with same | step
    · exact Nat.le_of_eq (congrArg toGo same)
    · exact step.kept known closed
  returns := known.leads_done departing

end Shift

end AttachService
