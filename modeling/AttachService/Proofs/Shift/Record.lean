/-
Module: AttachService.Proofs.Shift.Record
Purpose: What the record says of the requests that were taken, and how a thread ends.
Trusted boundary: none
Main exports: Post.inHand, Post.ending, Fate.survived, Shift.Recorded, Shift.recorded_run,
  Shift.Departing, Shift.departing_run, Shift.Recorded.accepted_eq, Shift.Left, Shift.Known.left,
  Shift.Ended, Shift.Known.ended, Shift.Stopped, Shift.Known.stopped
-/
import AttachService.Proofs.Shift.Steps

namespace AttachService

/-- The request that the thread has taken and that is not in the record. -/
def Post.inHand : Post → List Submission
  | .bearing request | .parting (some request) | .holding request | .serving request _ => [request]
  | _ => []

/-- Whether the thread on its way out was taken down. -/
def Post.ending : Post → Option Bool
  | .leaving dead | .withdrawing dead | .closing dead | .gone dead => some dead
  | _ => none

/-- Whether the thread went on after it had seen to a request. -/
def Fate.survived : Fate → Bool
  | .served .. | .dropped => true
  | .fatal | .lost => false

/-- How far the intake is shut down where a thread has come so far on its way out. -/
def Post.Assures : Post → Race → Prop
  | .closing _, race => race.Withdrawn
  | .gone _, race => race.intake.pending.closed = true
  | _, _ => True

/-- What a keeper has seen to that has come so far. -/
def Keeper.Assures : Keeper → Post → Race → Prop
  | .closing, _, race => race.Withdrawn
  | .waiting, _, race => race.intake.pending.closed = true
  | .done dead, post, _ => post = .gone dead
  | _, _, _ => True

namespace Shift

variable {world : Type} {shift after : Shift world} {request : Submission} {fate : Fate}

/-- The fates in the record. -/
def fates (shift : Shift world) : List Fate := shift.record.map (·.2)

theorem fates_note (shift : Shift world) (request : Submission) (fate : Fate) (post : Post)
    (outside : world) (events : List Event) :
    (shift.note request fate post outside events).fates = shift.fates ++ [fate] := by
  simp [fates, note]

/-! ### The record -/

/-- What the record and the race have to do with one another. -/
structure Recorded (shift : Shift world) : Prop where
  /-- All that was taken is in the record, but for what the thread has in hand. -/
  taken : shift.race.taken = shift.record.map (·.1) ++ shift.post.inHand
  survived : shift.post.ending ≠ some true → ∀ fate ∈ shift.fates, fate.survived = true
  /-- A thread that was taken down was so by the last request that it took, and by no other. -/
  fell : shift.post.ending = some true →
    ∃ front fate, shift.fates = front ++ [fate] ∧ fate.survived = false
      ∧ ∀ fate ∈ front, fate.survived = true
  home : shift.post.ending = some false → 0 < shift.race.sentHome
  /-- Each death with a slot in hand has cost that slot. -/
  lost : shift.race.lost.length = shift.fates.count .lost
  poisoned : shift.race.intake.poisoned = true ↔ .lost ∈ shift.fates

theorem recorded_start (settings : Settings) (outside : world) (commands : CommandTable) :
    (start settings outside commands).Recorded where
  taken := rfl
  survived _ := by simp [fates, start]
  fell ended := by simp [start, Post.ending] at ended
  home ended := by simp [start, Post.ending] at ended
  lost := rfl
  poisoned := by simp [fates, start, Race.start, Intake.new]

namespace Recorded

/-- A step with which nothing is taken, nothing noted, and nobody starts to leave. -/
theorem congr (recorded : shift.Recorded) (untouched : shift.race.Untouched after.race)
    (record : after.record = shift.record) (inHand : after.post.inHand = shift.post.inHand)
    (ending : after.post.ending = shift.post.ending)
    (home : 0 < shift.race.sentHome → 0 < after.race.sentHome) : after.Recorded where
  taken := by rw [untouched.taken, record, inHand, recorded.taken]
  survived := by
    rw [ending, fates, record]
    exact recorded.survived
  fell := by
    rw [ending, fates, record]
    exact recorded.fell
  home := by
    rw [ending]
    exact fun ended => home (recorded.home ended)
  lost := by
    rw [untouched.lost, fates, record]
    exact recorded.lost
  poisoned := by
    rw [untouched.poisoned, fates, record]
    exact recorded.poisoned

/-- A step that is one move of the race. -/
theorem of_move (recorded : shift.Recorded) (m : Move) (moved : after.race = shift.race.move m)
    (takes : m = .carryOn → shift.race.holder ≠ some .taker) (lives : m ≠ .die)
    (record : after.record = shift.record) (inHand : after.post.inHand = shift.post.inHand)
    (ending : after.post.ending = shift.post.ending) : after.Recorded := by
  refine recorded.congr ?_ record inHand ending ?_ <;> rw [moved]
  · exact Race.untouched_move takes lives
  · exact fun home => Race.sentHome_move home m

/-- A step of the thread by which it takes nothing and does not start to leave. -/
theorem of_step {m : Move} {post : Post} (recorded : shift.Recorded)
    (takes : m = .carryOn → shift.race.holder ≠ some .taker) (lives : m ≠ .die)
    (inHand : post.inHand = shift.post.inHand) (ending : post.ending = shift.post.ending) :
    (shift.step m post).Recorded :=
  recorded.of_move m rfl takes lives rfl inHand ending

variable {outside : world} {events : List Event}

/-- The thread goes on after it has seen to a request. -/
theorem note_survived (recorded : shift.Recorded) (inHand : shift.post.inHand = [request])
    (onward : shift.post.ending = none) (survived : fate.survived = true) :
    (shift.note request fate .asking outside events).Recorded := by
  have kept : fate ≠ .lost := by
    rintro rfl
    cases survived
  refine {
    taken := ?_
    survived := fun _ other member => ?_
    fell := nofun
    home := nofun
    lost := ?_
    poisoned := ?_ }
  · simp only [note, recorded.taken, inHand]
    simp [Post.inHand]
  · rw [fates_note, List.mem_append, List.mem_singleton] at member
    rcases member with before | rfl
    · exact recorded.survived (by simp [onward]) other before
    · exact survived
  · rw [fates_note, List.count_append, List.count_singleton, if_neg (by simpa using kept)]
    exact recorded.lost
  · rw [fates_note, List.mem_append, List.mem_singleton, or_iff_left kept.symm]
    exact recorded.poisoned

/-- The thread is taken down by a request, which may have struck the race as well. -/
theorem note_fell {struck : Shift world} (recorded : shift.Recorded)
    (inHand : shift.post.inHand = [request]) (onward : shift.post.ending = none)
    (fell : fate.survived = false) (record : struck.record = shift.record)
    (taken : struck.race.taken = shift.race.taken)
    (lost : struck.race.lost.length
      = shift.race.lost.length + if fate = .lost then 1 else 0)
    (poisoned : struck.race.intake.poisoned = true
      ↔ shift.race.intake.poisoned = true ∨ fate = .lost) :
    (struck.note request fate (.leaving true) outside events).Recorded := by
  have noted : (struck.note request fate (.leaving true) outside events).fates
      = shift.fates ++ [fate] := by
    rw [fates_note, fates, record]
    rfl
  refine {
    taken := ?_
    survived := fun onward => absurd rfl onward
    fell := fun _ => ⟨shift.fates, fate, noted, fell, recorded.survived (by simp [onward])⟩
    home := nofun
    lost := ?_
    poisoned := ?_ }
  · simp only [note, taken, record, recorded.taken, inHand]
    simp [Post.inHand]
  · rw [noted, List.count_append, List.count_singleton, ← recorded.lost]
    simp only [beq_iff_eq]
    exact lost
  · rw [noted, List.mem_append, List.mem_singleton, ← recorded.poisoned, eq_comm (a := Fate.lost)]
    exact poisoned

end Recorded

/-! ### What is left -/

/-- Whatever was accepted is in the record, in the hands of the thread, or queued, in this
order. -/
theorem Recorded.accepted_eq {settings : Settings} (recorded : shift.Recorded)
    (known : shift.Known settings) :
    shift.race.accepted.map (·.2)
      = shift.record.map (·.1) ++ shift.post.inHand ++ shift.race.intake.chains.queued := by
  rw [← recorded.taken]
  exact (known.always (Race.queued_run settings)).record

/-- What is left when the thread is gone. -/
structure Left (shift : Shift world) : Prop where
  pending : shift.race.intake.pending.closed = true
  closed : shift.race.intake.closed = true
  unready : shift.race.intake.ready = false
  accepted : shift.race.accepted.map (·.2)
    = shift.record.map (·.1) ++ shift.race.intake.chains.queued
  /-- Every slot is free, has a queued request in it, or went with a thread that died. -/
  slots : shift.race.intake.freeCount + shift.race.intake.queuedCount + shift.fates.count .lost
    = Limits.slots

/-- How far the intake is shut down when the thread leaves, and when its keeper stops it. -/
structure Departing (shift : Shift world) : Prop where
  thread : shift.post.Assures shift.race
  keeper : shift.keeper.Assures shift.post shift.race

theorem departing_start (settings : Settings) (outside : world) (commands : CommandTable) :
    (start settings outside commands).Departing := ⟨trivial, trivial⟩

/-- A thread that is gone leaves the intake shut, with whatever it has not come to in the
queue. -/
theorem Known.left {settings : Settings} {dead : Bool} (known : shift.Known settings)
    (recorded : shift.Recorded) (departing : shift.Departing) (gone : shift.post = .gone dead) :
    shift.Left := by
  have thread := departing.thread
  rw [gone] at thread
  have pending : shift.race.intake.pending.closed = true := thread
  have shut := known.always (Race.shut_run settings)
  obtain ⟨closed, unready⟩ := shut.final (.inr pending)
  have grips := known.manned.grips
  rw [gone] at grips
  have total := (known.always (Race.balanced_run settings)).total
  rw [shut.hands_eq_nil (.inr pending) grips.2, recorded.lost] at total
  have accepted := recorded.accepted_eq known
  have none : (Post.gone dead).inHand = [] := rfl
  rw [gone, none, List.append_nil] at accepted
  exact {
    pending := pending
    closed := closed
    unready := unready
    accepted := accepted
    slots := total }

/-- How a thread came to its end. -/
inductive Ended (shift : Shift world) : Bool → Prop where
  /-- There was nothing left to do. -/
  | finished (survived : ∀ fate ∈ shift.fates, fate.survived = true)
      (all : shift.record.map (·.1) = shift.race.accepted.map (·.2))
      (empty : shift.race.intake.chains.queueChain = [])
      (free : shift.race.intake.freeCount = Limits.slots)
      (sane : shift.race.intake.poisoned = false) : Ended shift false
  /-- The last request that it took has taken it down.  The slot of that one is in use again. -/
  | fell {front : List (Submission × Fate)} {request : Submission}
      (last : shift.record = front ++ [(request, .fatal)])
      (survived : ∀ entry ∈ front, entry.2.survived = true)
      (slots : shift.race.intake.freeCount + shift.race.intake.queuedCount = Limits.slots)
      (sane : shift.race.intake.poisoned = false) : Ended shift true
  /-- It died with the slot of the last request in its hands. -/
  | struck {front : List (Submission × Fate)} {request : Submission}
      (last : shift.record = front ++ [(request, .lost)])
      (survived : ∀ entry ∈ front, entry.2.survived = true)
      (slots : shift.race.intake.freeCount + shift.race.intake.queuedCount + 1 = Limits.slots)
      (poisoned : shift.race.intake.poisoned = true) : Ended shift true

theorem count_lost_of_survived {fates : List Fate}
    (survived : ∀ fate ∈ fates, fate.survived = true) : fates.count .lost = 0 :=
  List.count_eq_zero.2 fun lost => by cases survived _ lost

/-- The lock is poisoned only by a thread that died with a slot in its hands. -/
theorem Recorded.sane (recorded : shift.Recorded) (kept : .lost ∉ shift.fates) :
    shift.race.intake.poisoned = false := by
  rw [← Bool.not_eq_true, recorded.poisoned]
  exact kept

/-- A thread that was taken down was so by the last request in the record. -/
theorem Recorded.exists_last (recorded : shift.Recorded)
    (ended : shift.post.ending = some true) :
    ∃ front request fate, shift.record = front ++ [(request, fate)] ∧ fate.survived = false
      ∧ (∀ entry ∈ front, entry.2.survived = true)
      ∧ shift.fates.count .lost = if fate = .lost then 1 else 0 := by
  obtain ⟨fates, fate, same, fell, survived⟩ := recorded.fell ended
  obtain ⟨front, rest, split, rfl, last⟩ := List.map_eq_append_iff.1 same
  obtain ⟨⟨request, fate⟩, rfl, rfl⟩ := List.map_eq_singleton_iff.1 last
  refine ⟨front, request, fate, split, fell, fun entry member => ?_, ?_⟩
  · exact survived entry.2 (List.mem_map_of_mem member)
  · rw [same, List.count_append, count_lost_of_survived survived, List.count_singleton,
      Nat.zero_add]
    simp only [beq_iff_eq]

/-- A thread finishes its work, or its last request takes it down. -/
theorem Known.ended {settings : Settings} {dead : Bool} (known : shift.Known settings)
    (recorded : shift.Recorded) (departing : shift.Departing) (gone : shift.post = .gone dead) :
    shift.Ended dead := by
  have left := known.left recorded departing gone
  have ending : shift.post.ending = some dead := by rw [gone]; rfl
  have slots := left.slots
  cases dead with
  | false =>
      have survived := recorded.survived (by rw [ending]; nofun)
      have kept := count_lost_of_survived survived
      obtain ⟨empty, taken⟩ := known.spent.taken_eq (known.always (Race.balanced_run settings))
        (known.always (Race.queued_run settings)) (recorded.home ending)
      have inHand : shift.post.inHand = [] := by rw [gone]; rfl
      have all := recorded.taken
      rw [taken, inHand, List.append_nil] at all
      rw [kept, Intake.queuedCount, empty] at slots
      exact .finished survived all.symm empty slots (recorded.sane (List.count_eq_zero.1 kept))
  | true =>
      obtain ⟨front, request, fate, last, fell, survived, lost⟩ := recorded.exists_last ending
      rw [lost] at slots
      cases fate with
      | served | dropped => cases fell
      | fatal =>
          exact .fell last survived slots (recorded.sane (List.count_eq_zero.1 lost))
      | lost =>
          refine .struck last survived slots (recorded.poisoned.2 ?_)
          exact List.count_pos_iff.1 (by rw [lost]; exact Nat.one_pos)

/-- The keeper has stopped a thread that has seen to all that was accepted. -/
structure Stopped (shift : Shift world) (dead : Bool) : Prop where
  alive : dead = false
  all : shift.record.map (·.1) = shift.race.accepted.map (·.2)
  unready : shift.race.intake.ready = false
  free : shift.race.intake.freeCount = Limits.slots
  empty : shift.race.intake.chains.queueChain = []

/-- A keeper that is back from a thread that nothing took down leaves an empty intake. -/
theorem Known.stopped {settings : Settings} {dead : Bool} (known : shift.Known settings)
    (recorded : shift.Recorded) (departing : shift.Departing)
    (survived : ∀ fate ∈ shift.fates, fate.survived = true) (done : shift.keeper = .done dead) :
    shift.Stopped dead := by
  have gone : shift.post = .gone dead := by
    have keeper := departing.keeper
    rwa [done] at keeper
  have last : ∀ {front request fate}, shift.record = front ++ [(request, fate)] →
      fate.survived = true := by
    intro front request fate last
    exact survived fate (List.mem_map.2 ⟨(request, fate), by simp [last], rfl⟩)
  cases known.ended recorded departing gone with
  | finished _ all empty free =>
      exact ⟨rfl, all, (known.left recorded departing gone).unready, free, empty⟩
  | fell ended | struck ended => cases last ended

/-! ### Steps -/

variable [Transport world] {m : ShiftMove world} {settings : Settings}

/-- What a step takes is in hand or in the record, and what it drops from the one goes into the
other. -/
theorem Recorded.move (recorded : shift.Recorded) (manned : shift.Manned)
    (step : shift.Step m after) : after.Recorded := by
  have grips := manned.grips
  cases step with
  | @elsewhere m foreign free =>
      refine recorded.of_move m rfl (fun same => ?_) foreign.2.2 rfl rfl rfl
      have outside := (Bool.or_eq_false_iff.1 (free same)).1
      exact ((Post.grips_of_outside outside).1 grips).1
  | drift | join => exact recorded.congr ⟨rfl, rfl, rfl⟩ rfl rfl rfl id
  | begin here | acquire here | reach here | leave here | close here =>
      exact recorded.of_step (by simp) (by simp) (by rw [here]; rfl) (by rw [here]; rfl)
  | openUp here =>
      rw [here] at grips
      refine recorded.of_step (fun _ => ?_) (by simp) ?_ ?_
      · rcases grips with holds | holds <;> simp [holds]
      · rw [here]
        split <;> rfl
      · rw [here]
        split <;> rfl
  | sendHome here refused =>
      refine {
        taken := ?_
        survived := fun _ => recorded.survived (by simp [here, Post.ending])
        fell := fun ended => by cases ended
        home := fun _ => ?_
        lost := ?_
        poisoned := ?_ } <;>
        simp only [Shift.step, Race.move_acquire_of_refused refused]
      · rw [recorded.taken, here]
        rfl
      · exact Nat.succ_pos _
      · exact recorded.lost
      · exact recorded.poisoned
  | findNothing here empty =>
      rw [here] at grips
      refine recorded.congr ?_ rfl (by rw [here]; rfl) (by rw [here]; rfl)
        fun home => Race.sentHome_move home _
      simp only [Shift.step, Race.carryOn_of_empty grips empty]
      exact ⟨rfl, rfl, rfl⟩
  | take here found =>
      rw [here] at grips
      obtain ⟨chains, -, -, rfl⟩ := Intake.pull?_eq_some_iff.1 found
      refine {
        taken := ?_
        survived := fun _ => recorded.survived (by simp [here, Post.ending])
        fell := fun ended => by cases ended
        home := fun ended => by cases ended
        lost := ?_
        poisoned := ?_ } <;>
        simp only [Shift.step, Race.carryOn_of_found grips found]
      · rw [recorded.taken, here]
        simp [Post.inHand]
      · exact recorded.lost
      · exact recorded.poisoned
  | giveBack here | part here | partWithNothing here =>
      rw [here] at grips
      refine recorded.of_move .carryOn rfl (fun _ holds => ?_) (by simp) rfl (by rw [here]; rfl)
        (by rw [here]; rfl)
      simp [Post.Grips, holds] at grips
  | unwrap here =>
      exact recorded.congr ⟨rfl, rfl, rfl⟩ rfl (by rw [here]; rfl) (by rw [here]; rfl) id
  | drop here | answer here =>
      exact recorded.note_survived (by rw [here]; rfl) (by rw [here]; rfl) rfl
  | fall here =>
      exact recorded.note_fell (by rw [here]; rfl) (by rw [here]; rfl) rfl rfl rfl (by simp)
        (by simp)
  | withdraw here =>
      rw [here] at grips
      refine recorded.of_step (fun _ => grips.not_consumer.1) (by simp) ?_ ?_
      · rw [here]
        split <;> rfl
      · rw [here]
        split <;> rfl
  | perish here =>
      rw [here] at grips
      obtain ⟨i, holds⟩ := grips
      refine recorded.note_fell (by rw [here]; rfl) (by rw [here]; rfl) rfl rfl ?_ ?_ ?_ <;>
        simp [Shift.step, Race.die_of_bearer holds, Intake.poison]
  | @founder request here =>
      have inHand : shift.post.inHand = [request] ∧ shift.post.ending = none := by
        rcases here with here | ⟨job, here⟩ <;> rw [here] <;> exact ⟨rfl, rfl⟩
      exact recorded.note_fell inHand.1 inHand.2 rfl rfl rfl (by simp) (by simp)
  | approach => exact recorded.of_move .withdraw rfl (by simp) (by simp) rfl rfl rfl
  | shut => exact recorded.of_move .close rfl (by simp) (by simp) rfl rfl rfl
  | retreat here =>
      have other := (manned.keeper here).1.not_consumer.1
      exact recorded.of_move .carryOn rfl (fun _ => other) (by simp) rfl rfl rfl

/-- The record is right at every moment. -/
theorem recorded_run (settings : Settings) (outside : world) (commands : CommandTable)
    (moves : List (ShiftMove world)) :
    ((start settings outside commands).run moves).Recorded :=
  run_induction (known_start settings outside commands)
    (recorded_start settings outside commands)
    (fun known recorded step => recorded.move known.manned step) moves

/-- A step takes the race no way back. -/
theorem Step.onward (step : shift.Step m after) :
    (shift.race.Withdrawn → after.race.Withdrawn)
      ∧ (shift.race.intake.pending.closed = true → after.race.intake.pending.closed = true) := by
  rcases step.race_eq with same | ⟨own, moved, -⟩
  · rw [same]
    exact ⟨id, id⟩
  · rw [moved]
    exact ⟨fun withdrawn => withdrawn.move own, fun closed => Race.closed_move closed own⟩

namespace Departing

/-- A step of the thread. -/
theorem of_work (departing : shift.Departing) (step : shift.Step m after)
    (busy : ∀ dead, shift.post ≠ .gone dead) (same : after.keeper = shift.keeper)
    (thread : after.post.Assures after.race) : after.Departing := by
  refine ⟨thread, ?_⟩
  have keeper := departing.keeper
  rw [same]
  cases here : shift.keeper with
  | away | withdrawing => trivial
  | closing =>
      rw [here] at keeper
      exact step.onward.1 keeper
  | waiting =>
      rw [here] at keeper
      exact step.onward.2 keeper
  | done dead =>
      rw [here] at keeper
      exact absurd keeper (busy dead)

/-- A step of anybody else. -/
theorem thread_of_eq (departing : shift.Departing) (step : shift.Step m after)
    (same : after.post = shift.post) : after.post.Assures after.race := by
  have thread := departing.thread
  rw [same]
  cases here : shift.post with
  | closing dead =>
      rw [here] at thread
      exact step.onward.1 thread
  | gone dead =>
      rw [here] at thread
      exact step.onward.2 thread
  | _ => trivial

/-- What the keeper has seen to is not undone while it stays where it is. -/
theorem keeper_of_eq (departing : shift.Departing) (step : shift.Step m after)
    (post : after.post = shift.post) (same : after.keeper = shift.keeper) :
    after.keeper.Assures after.post after.race := by
  have keeper := departing.keeper
  rw [same, post]
  cases here : shift.keeper with
  | away | withdrawing => trivial
  | closing =>
      rw [here] at keeper
      exact step.onward.1 keeper
  | waiting =>
      rw [here] at keeper
      exact step.onward.2 keeper
  | done dead =>
      rw [here] at keeper
      exact keeper

/-- Nobody comes further on the way out than the intake is shut down. -/
theorem move (departing : shift.Departing) (manned : shift.Manned) (step : shift.Step m after) :
    after.Departing := by
  have grips := manned.grips
  have whole := step
  cases step with
  | elsewhere =>
      exact ⟨departing.thread_of_eq whole rfl, departing.keeper_of_eq whole rfl rfl⟩
  | drift => exact ⟨departing.thread, departing.keeper⟩
  | begin here | acquire here | sendHome here | reach here | findNothing here | take here
  | giveBack here | part here | partWithNothing here | unwrap here | drop here | fall here
  | answer here | leave here | perish here =>
      exact departing.of_work whole (by simp [here]) rfl trivial
  | founder here =>
      refine departing.of_work whole (fun dead gone => ?_) rfl trivial
      rcases here with here | ⟨job, here⟩
      · cases here.symm.trans gone
      · cases here.symm.trans gone
  | openUp here =>
      refine departing.of_work whole (by simp [here]) rfl ?_
      simp only [Shift.step]
      split <;> trivial
  | withdraw here =>
      refine departing.of_work whole (by simp [here]) rfl ?_
      rw [here] at grips
      simp only [Shift.step]
      rcases Race.carryOn_of_retreats grips with retreats | ⟨released, withdrawn⟩
      · rw [retreats.isNone_eq]
        trivial
      · rw [released]
        exact withdrawn
  | close here =>
      refine departing.of_work whole (by simp [here]) rfl ?_
      have thread := departing.thread
      rw [here] at thread
      exact Race.closed_of_close thread
  | approach here => exact ⟨departing.thread_of_eq whole rfl, trivial⟩
  | retreat here =>
      refine ⟨departing.thread_of_eq whole rfl, ?_⟩
      rcases Race.carryOn_of_retreats (manned.keeper here).1 with retreats | ⟨released, withdrawn⟩
      · simp only [retreats.isNone_eq]
        trivial
      · simp only [released]
        exact withdrawn
  | shut here =>
      have keeper := departing.keeper
      rw [here] at keeper
      exact ⟨departing.thread_of_eq whole rfl, Race.closed_of_close keeper⟩
  | join events here gone => exact ⟨departing.thread, gone⟩

end Departing

theorem Departing.run (departing : shift.Departing) (known : shift.Known settings)
    (moves : List (ShiftMove world)) : (shift.run moves).Departing :=
  run_induction known departing (fun known departing step => departing.move known.manned step) moves

theorem departing_run (settings : Settings) (outside : world) (commands : CommandTable)
    (moves : List (ShiftMove world)) :
    ((start settings outside commands).run moves).Departing :=
  (departing_start settings outside commands).run (known_start settings outside commands) moves

end Shift

end AttachService
