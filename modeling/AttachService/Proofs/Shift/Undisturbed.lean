/-
Module: AttachService.Proofs.Shift.Undisturbed
Purpose: A thread and a keeper that nobody overtakes do what `Service` says in one piece.
Trusted boundary: none
Main exports: Shift.service, Shift.Calm, Shift.Works, Shift.start_undisturbed,
  Shift.run_undisturbed, Shift.submit_undisturbed, Shift.stop_undisturbed
-/
import AttachService.Proofs.Race.Undisturbed
import AttachService.Proofs.Shift.Returning
import AttachService.Service

namespace AttachService

/-- What somebody sees of the thread who does not look into it. -/
def Post.consumer : Post → Keeper → Consumer
  | .gone true, .done _ => .buried
  | .gone true, _ => .dead
  | .gone false, _ => .finished
  | _, _ => .running

/-- A thread that is gone is seen as finished or dead, as long as nobody has come for it. -/
theorem Post.consumer_gone (dead : Bool) {keeper : Keeper} (undone : ∀ dead, keeper ≠ .done dead) :
    (Post.gone dead).consumer keeper = if dead then .dead else .finished := by
  cases dead with
  | false => rfl
  | true =>
      cases keeper with
      | done dead => exact absurd rfl (undone dead)
      | away | withdrawing | closing | waiting => rfl

namespace Shift

variable {world : Type} {shift after : Shift world} {P Q : Shift world → Prop}

/-- A shift, as somebody sees it who takes each turn of the thread for one step. -/
def service (shift : Shift world) : Service world where
  intake := shift.race.intake
  outside := shift.outside
  commands := shift.commands
  consumer := shift.post.consumer shift.keeper

/-- Nobody has the lock, and the thread wants a unit or is gone. -/
structure Calm (shift : Shift world) : Prop where
  unlocked : shift.race.holder = none
  rests : shift.post = .asking ∨ ∃ dead, shift.post = .gone dead

variable [Transport world]

/-- If the thread is let, and nobody overtakes it, it comes to this. -/
def Works (shift : Shift world) (P : Shift world → Prop) : Prop :=
  ∃ n, P (shift.run (List.replicate n .work))

namespace Works

theorem here (holds : P shift) : shift.Works P := ⟨0, holds⟩

/-- Steps that were taken count. -/
theorem of_run (n : Nat) (works : (shift.run (List.replicate n .work)).Works P) :
    shift.Works P := by
  obtain ⟨m, reached⟩ := works
  refine ⟨n + m, ?_⟩
  rw [List.replicate_add, run_append]
  exact reached

/-- The thread may be let in two goes. -/
theorem trans (works : shift.Works P) (onward : ∀ {between}, P between → between.Works Q) :
    shift.Works Q := by
  obtain ⟨n, reached⟩ := works
  exact .of_run n (onward reached)

theorem imp (works : shift.Works P) (enough : ∀ {after}, P after → Q after) : shift.Works Q :=
  works.trans fun reached => .here (enough reached)

end Works

/-! ### One request -/

section

variable {pending : Semaphore} {request : Submission} {intake : Intake}

variable (here : shift.post = .asking) (unlocked : shift.race.holder = none)
  (granted : shift.race.intake.pending.acquire = .granted pending)

include here unlocked granted

/-- A thread that gets a unit takes the request for it. -/
theorem run_of_taken
    (taken : { shift.race.intake with pending := pending }.takeQueued = some (request, intake)) :
    shift.run (List.replicate 5 .work)
      = { shift with
          race := { shift.race with intake := intake, taken := shift.race.taken ++ [request] }
          post := .holding request } := by
  unfold Intake.takeQueued at taken
  split at taken
  · cases taken
  · next found =>
      cases taken
      simp [run_cons, List.replicate, move, work, here, unlocked, granted, found, step, Race.move,
        Race.lock, Race.carryOn]

/-- If there is none, it reports that and asks for another one. -/
theorem run_of_untaken
    (empty : { shift.race.intake with pending := pending }.takeQueued = none) :
    shift.run (List.replicate 4 .work)
      = { shift with
          race := { shift.race with intake := { shift.race.intake with pending := pending } }
          events := shift.events ++ [.notice .emptyQueue] } := by
  unfold Intake.takeQueued at empty
  split at empty
  · next none =>
      simp [run_cons, List.replicate, move, work, here, unlocked, granted, none, step, Race.move,
        Race.lock, Race.carryOn]
  · cases empty

end

/-! ### One turn -/

/-- The thread has come from one point to another, and what somebody sees has changed so. -/
structure Comes (shift : Shift world) (service : Service world) (events : List Event)
    (after : Shift world) : Prop where
  service : after.service = service
  events : after.events = shift.events ++ events
  unlocked : after.race.holder = none
  keeper : after.keeper = shift.keeper

/-- Where a turn leaves the thread. -/
inductive Leaves (shift after : Shift world) : Turn → Prop where
  | job {request : Submission} {job : Job} (there : after.post = .serving request job)
      (fewer : after.race.intake.pending.count < shift.race.intake.pending.count) :
      Leaves shift after (.job job)
  | closed (there : after.post = .leaving false) : Leaves shift after .closed
  | waiting (there : after.post = .asking)
      (blocked : after.race.intake.pending.acquire = .blocked) : Leaves shift after .waiting
  | panicked (there : after.post = .leaving true) : Leaves shift after .panicked

omit [Transport world] in
/-- What was reported on the way comes first. -/
theorem Comes.of_between {between : Shift world} {service : Service world}
    {first events : List Event} (comes : between.Comes service events after)
    (reported : between.events = shift.events ++ first)
    (keeper : between.keeper = shift.keeper) : shift.Comes service (first ++ events) after where
  service := comes.service
  events := by rw [comes.events, reported, List.append_assoc]
  unlocked := comes.unlocked
  keeper := comes.keeper.trans keeper

omit [Transport world] in
/-- Units that were taken on the way do not come back. -/
theorem Leaves.of_between {between : Shift world} {turn : Turn} (leaves : between.Leaves after turn)
    (taken : between.race.intake.pending.count < shift.race.intake.pending.count) :
    shift.Leaves after turn := by
  cases leaves with
  | job there fewer => exact .job there (Nat.lt_trans fewer taken)
  | closed there => exact .closed there
  | waiting there blocked => exact .waiting there blocked
  | panicked there => exact .panicked there

/-- A turn that nobody overtakes is one of `Intake.next`. -/
theorem works_next {turn : Turn} {intake : Intake} {outside : world} {events : List Event}
    (here : shift.post = .asking) (unlocked : shift.race.holder = none)
    (turned : shift.race.intake.next shift.outside = (turn, intake, outside, events)) :
    shift.Works fun after => shift.Leaves after turn
      ∧ shift.Comes ⟨intake, outside, shift.commands, .running⟩ events after := by
  -- Each round takes a unit, and nothing here adds one.
  induction left : shift.race.intake.pending.count using Nat.strongRecOn
    generalizing shift events with
  | ind n fewer =>
  subst left
  rw [Intake.next] at turned
  split at turned
  · next refused =>
      cases turned
      refine ⟨1, ?_⟩
      simp only [List.replicate_one, run_cons, run_nil, move, work, here, refused, step,
        Race.move]
      exact ⟨.closed rfl, rfl, (List.append_nil _).symm, unlocked, rfl⟩
  · next blocked =>
      cases turned
      refine .here ⟨.waiting here blocked, ?_, (List.append_nil _).symm, unlocked, rfl⟩
      rw [service, here]
      rfl
  · next pending granted =>
      have count := Semaphore.count_of_acquire granted
      have less : pending.count < shift.race.intake.pending.count := by omega
      split at turned
      · next empty =>
          rcases rest : Intake.next { shift.race.intake with pending := pending } shift.outside
            with ⟨turn', intake', outside', more⟩
          rw [rest] at turned
          cases turned
          refine .of_run 4 ?_
          rw [run_of_untaken here unlocked granted empty]
          refine Works.imp (fewer pending.count less here unlocked rest rfl) ?_
          rintro _ ⟨leaves, comes⟩
          exact ⟨leaves.of_between less, comes.of_between rfl rfl⟩
      · next request after taken =>
          have same : after.pending = pending := Intake.pending_of_takeQueued taken
          rw [← same] at less
          refine .of_run 6 ?_
          rw [List.replicate_succ', run_concat, run_of_taken here unlocked granted taken]
          simp only [move, work, unwrap]
          split at turned
          · next made =>
              cases turned
              simp only [made]
              exact .here ⟨.job rfl less, rfl, rfl, unlocked, rfl⟩
          · next panicked =>
              cases turned
              simp only [panicked, note]
              exact .here ⟨.panicked rfl, rfl, rfl, unlocked, rfl⟩
          · next later events dropped =>
              rcases rest : after.next later with ⟨turn', intake', outside', more⟩
              rw [rest] at turned
              cases turned
              simp only [dropped, note]
              refine Works.imp (fewer after.pending.count less rfl unlocked rest rfl) ?_
              rintro _ ⟨leaves, comes⟩
              exact ⟨leaves.of_between less, comes.of_between rfl rfl⟩

/-! ### Turn after turn -/

/-- A thread that is about to leave shuts the intake down and is gone. -/
theorem run_of_leaving {dead : Bool} (here : shift.post = .leaving dead)
    (unlocked : shift.race.holder = none) :
    shift.run (List.replicate 5 .work)
      = { shift with
          race := { shift.race with intake := shift.race.intake.shutDown }
          post := .gone dead } := by
  simp [run_cons, List.replicate, move, work, here, unlocked, step, Race.move, Race.lock,
    Race.carryOn, Intake.shutDown, Intake.withdraw]

/-- The thread has come as far as that, and takes no further step. -/
structure Rests (shift : Shift world) (outcome : Service world × List Event)
    (after : Shift world) : Prop where
  comes : shift.Comes outcome.1 outcome.2 after
  calm : after.Calm
  still : after.work = after

/-- What was reported on the way comes first here too. -/
theorem Rests.of_between {between : Shift world} {service : Service world}
    {first events : List Event} (rests : between.Rests (service, events) after)
    (reported : between.events = shift.events ++ first)
    (keeper : between.keeper = shift.keeper) : shift.Rests (service, first ++ events) after where
  comes := rests.comes.of_between reported keeper
  calm := rests.calm
  still := rests.still

/-- Leaving is one step to somebody who does not look into it. -/
theorem Comes.works_leave {between : Shift world} {service : Service world} {events : List Event}
    {dead : Bool} (comes : shift.Comes service events between)
    (there : between.post = .leaving dead) (undone : ∀ dead, shift.keeper ≠ .done dead) :
    between.Works
      (shift.Rests (service.leave (if dead then .dead else .finished), events)) := by
  rw [← comes.keeper] at undone
  refine .of_run 5 ?_
  rw [run_of_leaving there comes.unlocked]
  refine .here ⟨⟨?_, comes.events, comes.unlocked, comes.keeper⟩, ?_, rfl⟩
  · rw [← comes.service]
    simp only [Shift.service, Post.consumer_gone dead undone, Service.leave]
  · exact ⟨comes.unlocked, .inr ⟨dead, rfl⟩⟩

/-- Answering is one step to somebody who does not look into it. -/
theorem comes_answer {request : Submission} {job : Job} (here : shift.post = .serving request job)
    (unlocked : shift.race.holder = none) :
    shift.Comes (shift.service.serve job).1 (shift.service.serve job).2
      (shift.answer request job) := by
  have outside : shift.service.outside = shift.outside := rfl
  have commands : shift.service.commands = shift.commands := rfl
  rcases executed : shift.commands.execute job.name job.args with ⟨reply, notices⟩
  rcases completed : job.complete reply with ⟨channel, more⟩
  rw [Shift.answer, Service.serve, CommandTable.serve, outside, commands]
  simp only [executed, completed]
  refine ⟨?_, rfl, unlocked, rfl⟩
  simp only [Shift.service, note, here, Post.consumer]

/-- A thread that is let serves what `Service.serveUpTo` serves. -/
theorem works_serveUpTo (jobs : Nat) (here : shift.post = .asking)
    (unlocked : shift.race.holder = none) (undone : ∀ dead, shift.keeper ≠ .done dead)
    (enough : shift.race.intake.pending.count < jobs) :
    shift.Works (shift.Rests (shift.service.serveUpTo jobs)) := by
  induction jobs generalizing shift with
  | zero => cases enough
  | succ jobs ih =>
      rcases turned : shift.race.intake.next shift.outside with ⟨turn, intake, outside, events⟩
      have turned' : shift.service.intake.next shift.service.outside
        = (turn, intake, outside, events) := turned
      have running : shift.service.consumer = .running := by
        simp only [service, here, Post.consumer]
      have commands : shift.service.commands = shift.commands := rfl
      rw [Service.serveUpTo]
      simp only [turned', running, commands]
      refine (works_next here unlocked turned).trans fun {between} reached => ?_
      obtain ⟨leaves, comes⟩ := reached
      cases leaves with
      | closed there => exact comes.works_leave there undone
      | panicked there => exact comes.works_leave there undone
      | waiting there blocked =>
          refine .here ⟨comes, ⟨comes.unlocked, .inl there⟩, ?_⟩
          simp only [work, there, blocked]
      | @job request job there fewer =>
          have answered := comes_answer there comes.unlocked
          rw [comes.service] at answered
          have less : (between.answer request job).race.intake.pending.count < jobs :=
            Nat.lt_of_lt_of_le fewer (Nat.le_of_lt_succ enough)
          have undone' : ∀ dead, (between.answer request job).keeper ≠ .done dead := by
            rw [answered.keeper, comes.keeper]
            exact undone
          refine .of_run 1 ?_
          simp only [List.replicate_one, run_cons, run_nil, move, work, there]
          refine Works.imp (ih rfl answered.unlocked undone' less) fun rests => ?_
          rw [answered.service] at rests
          have onward := rests.of_between answered.events answered.keeper
          rw [List.append_assoc]
          exact onward.of_between comes.events comes.keeper

/-! ### A service that nobody overtakes -/

/-- A thread that starts makes the intake ready, and asks for a unit. -/
theorem start_undisturbed {settings : Settings} {outside : world} {commands : CommandTable}
    {started : Service world}
    (starts : Service.start (.new settings) outside commands = some started) :
    (start settings outside commands).Works fun after =>
      (start settings outside commands).Comes started [] after ∧ after.Calm := by
  unfold Service.start at starts
  split at starts
  · cases starts
  · cases starts
    refine ⟨3, ?_⟩
    simp only [List.replicate, run_cons, run_nil, move, work, start, Race.start, step, Race.move,
      Race.lock, Race.carryOn]
    exact ⟨⟨rfl, rfl, rfl, rfl⟩, rfl, .inl rfl⟩

/-- Between two requests the thread does what `Service.run` says. -/
theorem run_undisturbed (calm : shift.Calm) (undone : ∀ dead, shift.keeper ≠ .done dead) :
    shift.Works (shift.Rests shift.service.run) := by
  rcases calm.rests with here | ⟨dead, gone⟩
  · have running : shift.service.consumer = .running := by
      simp only [service, here, Post.consumer]
    rw [Service.run, running]
    exact works_serveUpTo _ here calm.unlocked undone (Nat.lt_succ_self _)
  · have idle : shift.service.run = (shift.service, []) := by
      have consumer : shift.service.consumer = if dead then .dead else .finished := by
        rw [service, gone, Post.consumer_gone dead undone]
      rw [Service.run, consumer]
      cases dead <;> rfl
    rw [idle]
    refine .here ⟨⟨rfl, (List.append_nil _).symm, calm.unlocked, rfl⟩, calm, ?_⟩
    rw [work, gone]

/-- A keeper that nobody overtakes shuts the intake down and waits. -/
theorem run_of_away (here : shift.keeper = .away) (unlocked : shift.race.holder = none) :
    shift.run (List.replicate 5 .stop)
      = { shift with
          race := { shift.race with intake := shift.race.intake.shutDown }
          keeper := .waiting } := by
  simp [run_cons, List.replicate, move, stop, here, unlocked, Race.move, Race.lock,
    Race.carryOn, Intake.shutDown, Intake.withdraw]

/-- The thread does not open a semaphore that is closed. -/
theorem closed_run_work (closed : shift.race.intake.pending.closed = true) (n : Nat) :
    (shift.run (List.replicate n .work)).race.intake.pending.closed = true := by
  induction n generalizing shift with
  | zero => exact closed
  | succ n ih =>
      rw [List.replicate_succ, run_cons]
      apply ih
      rcases shift.move_eq_or_step .work with same | step
      · rw [same]
        exact closed
      · exact step.onward.2 closed

/-- A thread that takes no further step, although the semaphore is closed, is gone. -/
theorem Rests.gone {outcome : Service world × List Event} (rests : shift.Rests outcome after)
    (closed : after.race.intake.pending.closed = true) : ∃ dead, after.post = .gone dead := by
  refine rests.calm.rests.resolve_left fun here => ?_
  have moved := congrArg Shift.post rests.still
  rw [work, here] at moved
  simp only at moved
  split at moved
  · cases moved
  · cases moved
  · next blocked => cases closed.symm.trans (Semaphore.acquire_eq_blocked_iff.1 blocked).2

/-- The keeper has stopped the thread, and what somebody sees has changed so. -/
structure Stops (shift : Shift world) (outcome : Service world × List Event)
    (after : Shift world) : Prop where
  service : after.service = outcome.1
  events : after.events = shift.events ++ outcome.2
  unlocked : after.race.holder = none
  done : ∃ dead, after.post = .gone dead ∧ after.keeper = .done dead

/-- A keeper that finds that the thread has returned has nothing to report. -/
theorem stops_of_finished {service : Service world} {events : List Event}
    (comes : shift.Comes service events after) (gone : after.post = .gone false)
    (waits : after.keeper = .waiting) : shift.Stops (service, events) (after.move .stop) := by
  have seen := comes.service
  rw [Shift.service, gone] at seen
  simp only [move, stop, waits, gone]
  exact ⟨seen, comes.events, comes.unlocked, false, rfl, rfl⟩

/-- A keeper that finds that the thread was taken down reports that. -/
theorem stops_of_dead {service : Service world} {events : List Event}
    (comes : shift.Comes service events after) (gone : after.post = .gone true)
    (waits : after.keeper = .waiting) :
    shift.Stops ({ service with consumer := .buried }, events ++ [.notice .consumerPanicked])
      (after.move .stop) := by
  have seen := congrArg (fun s : Service world => { s with consumer := .buried }) comes.service
  have reported := comes.events
  simp only [move, stop, waits, gone]
  refine ⟨seen, ?_, comes.unlocked, true, rfl, rfl⟩
  rw [reported, List.append_assoc]

/-- What the keeper does once the thread has come to its end is the rest of `Service.stop`. -/
theorem Rests.stops {service : Service world} (rests : shift.Rests service.run after)
    (shut : service.intake.shutDown = service.intake) {dead : Bool}
    (gone : after.post = .gone dead) (waits : shift.keeper = .waiting) :
    shift.Stops service.stop (after.move .stop) := by
  have waiting : after.keeper = .waiting := rests.comes.keeper.trans waits
  have comes := rests.comes
  have consumer : service.run.1.consumer = if dead then .dead else .finished := by
    rw [← comes.service, Shift.service, gone]
    exact Post.consumer_gone dead (by simp [waiting])
  rw [Service.stop, shut]
  cases dead with
  | false =>
      have finished : service.run.1.consumer = .finished := consumer
      simp only [finished]
      exact stops_of_finished comes gone waiting
  | true =>
      have dead : service.run.1.consumer = .dead := consumer
      simp only [dead]
      exact stops_of_dead comes gone waiting

/-- If nobody overtakes the keeper, nor the thread once the keeper waits for it, they do what
`Service.stop` says. -/
theorem stop_undisturbed (calm : shift.Calm) (here : shift.keeper = .away) :
    ∃ n, shift.Stops shift.service.stop
      (shift.run (List.replicate 5 .stop ++ (List.replicate n .work ++ [.stop]))) := by
  have undone : ∀ dead, shift.keeper ≠ .done dead := by simp [here]
  let between : Shift world :=
    { shift with
      race := { shift.race with intake := shift.race.intake.shutDown }
      keeper := .waiting }
  have same : shift.post.consumer .waiting = shift.post.consumer shift.keeper := by
    rcases calm.rests with asks | ⟨dead, gone⟩
    · rw [asks]
      rfl
    · rw [gone, Post.consumer_gone dead undone, Post.consumer_gone dead (by simp)]
  have shut : between.service.stop = shift.service.stop := by
    simp only [Service.stop, between, Shift.service, same]
    rfl
  have calm' : between.Calm := ⟨calm.unlocked, calm.rests⟩
  obtain ⟨n, rests⟩ := run_undisturbed calm' (by simp [between])
  have closed : between.race.intake.pending.closed = true := rfl
  obtain ⟨dead, gone⟩ := rests.gone (closed_run_work closed n)
  have stops := rests.stops rfl gone rfl
  refine ⟨n, ?_⟩
  rw [run_append, run_of_away here calm.unlocked, run_append, run_cons, run_nil, ← shut]
  exact ⟨stops.service, stops.events, stops.unlocked, stops.done⟩

/-! ### A visit that nobody overtakes -/

/-- A producer comes with this request, and is let until it is gone. -/
def visit (shift : Shift world) (request : Submission) : Shift world :=
  (shift.move (.others (.arrive request))).run
    ((List.replicate (shift.race.intake.settings.pollAttempts + 8)
      (.proceed shift.race.producers.length)).map .others)

/-- A visit is one of the race, and the thread stands still meanwhile. -/
theorem visit_eq (shift : Shift world) (request : Submission) :
    shift.visit request = { shift with
      race := (shift.race.move (.arrive request)).press shift.race.producers.length
        (shift.race.intake.settings.pollAttempts + 8) } := by
  rw [visit, run_others fun m member => .inr ⟨_, List.eq_of_mem_replicate member⟩]
  rfl

/-- If nobody overtakes a producer, nor the thread once the producer is gone, the producer gets
the answer of `Service.submit`, and the thread does what that says. -/
theorem submit_undisturbed (calm : shift.Calm) (undone : ∀ dead, shift.keeper ≠ .done dead)
    (request : Submission) :
    (shift.visit request).race.producers[shift.race.producers.length]?
        = some { request := request, progress := .answered (shift.service.submit request).1 }
      ∧ (shift.visit request).Works (shift.Rests (shift.service.submit request).2) := by
  have gone := shift.race.submit_undisturbed request calm.unlocked 0
  rw [Nat.zero_add] at gone
  rw [visit_eq]
  refine ⟨gone.told, ?_⟩
  generalize (shift.race.move (.arrive request)).press _ _ = race at gone
  let visited : Shift world := { shift with race := race }
  have served : visited.service.run = (shift.service.submit request).2 := by
    simp only [visited, Shift.service, gone.intake]
    rfl
  have calm' : visited.Calm := ⟨gone.unlocked, calm.rests⟩
  have works := run_undisturbed calm' undone
  rw [served] at works
  exact works.imp fun rests => ⟨⟨rests.comes.service, rests.comes.events, rests.comes.unlocked,
    rests.comes.keeper⟩, rests.calm, rests.still⟩

end Shift

end AttachService
