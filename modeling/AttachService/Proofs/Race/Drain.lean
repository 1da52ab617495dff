/-
Module: AttachService.Proofs.Race.Drain
Purpose: A consumer that takes its turn is sent home only when all that was ever accepted has
  been taken, and whoever is refused has touched nothing.
Trusted boundary: none
Main exports: Race.InTurn, Race.Spent, Race.Committed, Race.Drained, Race.shutdown_drains
-/
import AttachService.Proofs.Race.Shutdown

namespace AttachService

/-- The producer has a slot, or was accepted. -/
def Stage.committed : Stage → Bool
  | .reserved _ | .announced _ | .filled _ | .leaving (.ok _) => true
  | .entered | .welcome | .leaving (.error _) => false

namespace Race

variable {race after : Race} {m : Move} {free queue : List SlotId} {k : Nat} {p : Producer}
  {request : Submission}

/-! ### No way back -/

/-- No step takes a shutdown back. -/
theorem Withdrawn.step (withdrawn : race.Withdrawn) (step : race.Step m after) :
    after.Withdrawn := by
  cases step with
  | close => exact .inr rfl
  | withdraw => exact .inl (Nat.succ_pos _)
  | _ => exact withdrawn

/-- Once a shutdown has given the lock back, nothing is accepted. -/
theorem Step.accepted_eq (step : race.Step m after) (shut : race.Shut)
    (withdrawn : race.Withdrawn) : after.accepted = race.accepted := by
  cases step with
  | enlist holds =>
      have opened := shut.welcome holds rfl
      rw [(shut.final withdrawn).1] at opened
      cases opened
  | _ => rfl

/-- The intake is shut down, and nothing has been accepted since. -/
structure Over (past race : Race) : Prop where
  shut : race.Shut
  withdrawn : race.Withdrawn
  accepted : race.accepted = past.accepted

/-- Once the intake is shut down, nothing is accepted any more. -/
theorem over_run (balanced : race.Balanced) (tenure : race.Tenure) (shut : race.Shut)
    (withdrawn : race.Withdrawn) (later : List Move) : race.Over (race.run later) := by
  refine run_induction balanced tenure ⟨shut, withdrawn, rfl⟩ ?_ later
  rintro before m after free queue accounted - ⟨shut, withdrawn, accepted⟩ step
  exact {
    shut := shut.step accounted step
    withdrawn := withdrawn.step step
    accepted := by rw [step.accepted_eq shut withdrawn, accepted] }

/-! ### One consumer at a time -/

/-- No consumer asks for a unit while another one has a unit, but no request for it. -/
def InTurn : Race → List Move → Prop
  | _, [] => True
  | race, m :: rest => (m = .acquire → race.owed = 0) ∧ (race.move m).InTurn rest

instance decidableInTurn : (race : Race) → (moves : List Move) → Decidable (race.InTurn moves)
  | _, [] => .isTrue trivial
  | race, m :: rest =>
      have := decidableInTurn (race.move m) rest
      inferInstanceAs (Decidable ((m = .acquire → race.owed = 0) ∧ (race.move m).InTurn rest))

/-- Once a consumer was sent home, there are no units, and there will be none. -/
def Spent (race : Race) : Prop :=
  0 < race.sentHome → race.Withdrawn ∧ race.intake.pending.count = 0 ∧ race.owed = 0

/-- When a consumer is sent home there is no unit, and nobody else has one. -/
theorem Spent.step (spent : race.Spent) (shut : race.Shut) (turn : m = .acquire → race.owed = 0)
    (step : race.Step m after) : after.Spent := by
  have onward : race.Withdrawn → after.Withdrawn := fun withdrawn => withdrawn.step step
  cases step with
  | sendHome empty closed => exact fun _ => ⟨.inr closed, empty, turn rfl⟩
  | acquire left =>
      intro home
      have empty := (spent home).2.1
      rw [left] at empty
      cases empty
  | announce holds =>
      intro home
      have opened := shut.welcome holds rfl
      rw [(shut.final (spent home).1).1] at opened
      cases opened
  | findNothing | take =>
      intro home
      obtain ⟨withdrawn, empty, idle⟩ := spent home
      exact ⟨onward withdrawn, empty, by simp [idle]⟩
  | _ =>
      intro home
      exact ⟨onward (spent home).1, (spent home).2⟩

/-- Once a consumer was sent home there are no units for good, if each consumer is done before
the next one asks. -/
theorem spent_run (balanced : race.Balanced) (tenure : race.Tenure) (shut : race.Shut)
    (spent : race.Spent) {moves : List Move} (inTurn : race.InTurn moves) :
    (race.run moves).Spent := by
  induction moves generalizing race with
  | nil => exact spent
  | cons m rest ih =>
      obtain ⟨turn, inTurn⟩ := inTurn
      rw [run_cons]
      rcases race.move_eq_or_step m with same | step
      · rw [same] at inTurn ⊢
        exact ih balanced tenure shut spent inTurn
      · obtain ⟨free, queue, accounted⟩ := balanced
        exact ih (accounted.step step) (tenure.step step) (shut.step accounted step)
          (spent.step shut turn step) inTurn

theorem spent_start (settings : Settings) : (start settings).Spent :=
  fun home => absurd home (Nat.lt_irrefl 0)

/-- When a consumer has been sent home, nothing is queued, and all that was accepted has been
taken. -/
theorem Spent.taken_eq (spent : race.Spent) (balanced : race.Balanced) (queued : race.Queued)
    (home : 0 < race.sentHome) :
    race.intake.chains.queueChain = [] ∧ race.taken = race.accepted.map (·.2) := by
  obtain ⟨free, queue, accounted⟩ := balanced
  obtain ⟨-, units, idle⟩ := spent home
  have mirror := accounted.mirror
  have empty : queue = [] := List.eq_nil_of_length_eq_zero (by omega)
  have record := queued.record
  rw [accounted.layout.queued_eq, empty, List.map_nil, List.append_nil] at record
  rw [accounted.layout.queueChain_eq]
  exact ⟨empty, record.symm⟩

/-! ### Who is refused -/

/-- The producer holds a slot that will be queued, or was accepted. -/
def Committed (race : Race) (k : Nat) : Prop :=
  (∃ request stage, race.holder = some (.producer k request stage) ∧ stage.committed = true)
    ∨ ∃ p, race.producers[k]? = some p ∧ p.progress = .answered (.ok ())

/-- Whoever changes the intake is committed from then on. -/
theorem Step.committed_or_eq (step : race.Step (.proceed k) after)
    (accounted : race.Accounted free queue) :
    after.Committed k ∨ after.intake = race.intake := by
  cases step with
  | sleep | pass | refuse | enter | welcome | turnAway | leave => exact .inr rfl
  | overflow holds full => exact absurd full (accounted.announce?_ne_none holds)
  | reserve | announce | fill | enlist => exact .inl (.inl ⟨_, _, rfl, rfl⟩)

/-- The producer inside, once committed, stays so until it is answered. -/
theorem committed_of_inside {stage : Stage} (tenure : race.Tenure)
    (inside : race.holder = some (.producer k request stage)) (committed : stage.committed = true)
    (accounted : race.Accounted free queue) (step : race.Step m after) : after.Committed k := by
  cases step with
  | arrive | sleep | pass | refuse | close | acquire | sendHome =>
      exact .inl ⟨request, stage, inside, committed⟩
  | overflow holds full => exact absurd full (accounted.announce?_ne_none holds)
  | announce holds | fill holds | enlist holds =>
      rw [inside] at holds
      cases holds
      exact .inl ⟨_, _, rfl, rfl⟩
  | @leave j own answer holds =>
      obtain ⟨p, found, -, -⟩ := tenure.known (by rw [insider, inside])
      rw [inside] at holds
      cases holds
      cases answer with
      | ok => exact .inr ⟨_, getElem?_advance_self found, rfl⟩
      | error => cases committed
  | turnAway holds reason =>
      rw [inside] at holds
      cases holds
      rcases reason.early with rfl | rfl
      · cases committed
      · cases committed
  | welcome holds | reserve holds =>
      rw [inside] at holds
      cases holds
      cases committed
  | enter _ _ other | lockToOpen other | markReady other | comeLate other | lockToClose other
  | markClosed other | markUnready other | withdraw other | lockToTake other | findNothing other
  | take other | giveBack other | depart other | die other =>
      rw [inside] at other
      cases other

/-- A producer that has a slot will not be refused. -/
theorem Committed.step (committed : race.Committed k) (accounted : race.Accounted free queue)
    (tenure : race.Tenure) (step : race.Step m after) : after.Committed k := by
  rcases committed with ⟨request, stage, inside, committed⟩ | ⟨p, told, accepted⟩
  · exact committed_of_inside tenure inside committed accounted step
  · exact .inr ⟨p, step.answered_eq tenure told accepted, accepted⟩

theorem committed_run (balanced : race.Balanced) (tenure : race.Tenure)
    (committed : race.Committed k) (later : List Move) : (race.run later).Committed k :=
  run_induction balanced tenure committed
    (fun accounted tenure committed step => Committed.step committed accounted tenure step) later

/-- Nobody who is committed hears a refusal. -/
theorem Committed.not_refused (committed : race.Committed k) (tenure : race.Tenure)
    (found : race.producers[k]? = some p) (refusal : Refusal) :
    p.progress ≠ .answered (.error refusal) := by
  intro refused
  rcases committed with ⟨request, stage, holds, -⟩ | ⟨q, there, told⟩
  · obtain ⟨q, there, inside, -⟩ := tenure.known (by rw [insider, holds])
    rw [found] at there
    cases there
    rw [refused] at inside
    cases inside
  · rw [found] at there
    cases there
    rw [refused] at told
    cases told

/-- No step that producer `k` took with these moves has changed the intake. -/
def Traceless (settings : Settings) (moves : List Move) (k : Nat) : Prop :=
  ∀ before rest, moves = before ++ .proceed k :: rest →
    ((start settings).run (before ++ [.proceed k])).intake = ((start settings).run before).intake

/-- Who is refused has changed nothing with any of its steps. -/
theorem traceless_of_refused {settings : Settings} {moves : List Move} {refusal : Refusal}
    (found : ((start settings).run moves).producers[k]? = some p)
    (refused : p.progress = .answered (.error refusal)) : Traceless settings moves k := by
  rintro before rest rfl
  obtain ⟨free, queue, accounted⟩ := balanced_run settings before
  have tenure := tenure_run settings before
  rw [run_append, run_cons] at found
  rw [run_append, run_cons, run_nil]
  rcases ((start settings).run before).move_eq_or_step (.proceed k) with same | step
  · rw [same]
  · rcases step.committed_or_eq accounted with committed | same
    · -- Whoever has changed the intake is accepted in the end, or still inside.
      have onward := committed_run (accounted.step step) (tenure.step step) committed rest
      have tenure := tenure_run settings (before ++ .proceed k :: rest)
      rw [run_append, run_cons] at tenure
      exact absurd refused (onward.not_refused tenure found refusal)
    · exact same

/-! ### What a shutdown comes to -/

theorem inTurn_of_append {first second : List Move} (inTurn : race.InTurn (first ++ second)) :
    race.InTurn first := by
  induction first generalizing race with
  | nil => trivial
  | cons m rest ih => exact ⟨inTurn.1, ih inTurn.2⟩

theorem sentHome_step (home : 0 < race.sentHome) (step : race.Step m after) :
    0 < after.sentHome := by
  cases step with
  | sendHome => exact Nat.succ_pos _
  | _ => exact home

theorem sentHome_run (home : 0 < race.sentHome) (later : List Move) :
    0 < (race.run later).sentHome :=
  run_preserves sentHome_step home later

/-- Whoever was accepted has been taken, at the same place in the order. -/
theorem Truthful.exists_taken {now later : Race} (truthful : later.Truthful)
    (same : later.accepted = now.accepted) (taken : now.taken = now.accepted.map (·.2))
    (found : later.producers[k]? = some p) (told : p.progress = .answered (.ok ())) :
    ∃ n : Nat, now.accepted[n]? = some (k, p.request) ∧ now.taken[n]? = some p.request := by
  have member := (truthful k p.request).2 (.inl ⟨p, found, rfl, told⟩)
  rw [same] at member
  obtain ⟨n, accepted⟩ := List.mem_iff_getElem?.1 member
  refine ⟨n, accepted, ?_⟩
  rw [taken, List.getElem?_map, accepted]
  rfl

/-- What is known of `now`, and of any state `later` than that. -/
structure Drained (now later : Race) : Prop where
  unlocked : now.holder = none → ¬ (now.intake.ready = true ∧ now.intake.closed = true)
  /-- Once a shutdown has given the lock back, nothing is accepted, and nobody can make the
  intake ready. -/
  shut : now.Withdrawn → later.accepted = now.accepted ∧ later.intake.ready = false
  /-- A consumer is sent home only after a shutdown, when the queue is empty for good and all
  that was accepted has been taken. -/
  home : 0 < now.sentHome → now.Withdrawn ∧ now.intake.closed = true
  empty : 0 < now.sentHome → later.intake.chains.queueChain = []
  taken : 0 < now.sentHome → now.taken = later.accepted.map (·.2) ∧ later.taken = now.taken
  /-- Whoever is told, by then or later, that its request was accepted has had it taken. -/
  answered : 0 < now.sentHome → ∀ {k : Nat} {p : Producer}, later.producers[k]? = some p →
    p.progress = .answered (.ok ()) →
      ∃ n : Nat, now.accepted[n]? = some (k, p.request) ∧ now.taken[n]? = some p.request

/-- After a shutdown nothing is accepted, and a consumer is sent home only when all that was
accepted has been taken. -/
theorem shutdown_drains (settings : Settings) (moves later : List Move)
    (inTurn : (start settings).InTurn (moves ++ later)) :
    ((start settings).run moves).Drained ((start settings).run (moves ++ later))
      ∧ ∀ {k : Nat} {p : Producer} {refusal : Refusal},
        ((start settings).run moves).producers[k]? = some p →
          p.progress = .answered (.error refusal) → Traceless settings moves k := by
  have balanced := balanced_run settings moves
  have shut := shut_run settings moves
  have first := spent_run (balanced_start settings) (tenure_start settings) (shut_start settings)
    (spent_start settings) (inTurn_of_append inTurn)
  have second := spent_run (balanced_start settings) (tenure_start settings)
    (shut_start settings) (spent_start settings) inTurn
  have ended := over_run balanced (tenure_run settings moves) shut
  have beyond := balanced_run settings (moves ++ later)
  have truthful := truthful_run settings (moves ++ later)
  have queued := queued_run settings (moves ++ later)
  have queuedNow := queued_run settings moves
  refine ⟨?_, traceless_of_refused⟩
  rw [run_append] at *
  generalize (start settings).run moves = now at *
  have taken : 0 < now.sentHome → now.taken = now.accepted.map (·.2) := fun home =>
    (first.taken_eq balanced queuedNow home).2
  exact {
    unlocked := by
      rintro nobody ⟨ready, closed⟩
      rw [shut.calm (by simp [nobody]) closed] at ready
      cases ready
    shut := by
      intro withdrawn
      have after := ended withdrawn later
      exact ⟨after.accepted, (after.shut.final after.withdrawn).2⟩
    home := by
      intro home
      have withdrawn := (first home).1
      exact ⟨withdrawn, (shut.final withdrawn).1⟩
    empty := fun home => (second.taken_eq beyond queued (sentHome_run home later)).1
    taken := by
      intro home
      have after := second.taken_eq beyond queued (sentHome_run home later)
      rw [after.2, (ended (first home).1 later).accepted]
      exact ⟨taken home, (taken home).symm⟩
    answered := by
      intro home k p found told
      have same := (ended (first home).1 later).accepted
      exact truthful.exists_taken same (taken home) found told }

/-- A request is announced and its unit taken at once.  The intake is shut down before the
consumer comes for the request, and then the consumer asks for another one. -/
def lateTaker (request : Submission) : List Move :=
  [.arrive request, .markReady, .carryOn, .carryOn, .proceed 0, .proceed 0, .proceed 0,
    .proceed 0, .proceed 0, .acquire, .proceed 0, .proceed 0, .proceed 0, .withdraw, .carryOn,
    .carryOn, .carryOn, .close, .take, .carryOn, .carryOn, .carryOn, .acquire]

/-- A consumer that comes late for its request still finds it, and is sent home next time. -/
theorem shutdown_drains_late_taker :
    (start ⟨1000, 10, 10000, "/tmp/", ""⟩).InTurn
        (lateTaker ⟨1, "help", #v["", "", ""], "/tmp/1"⟩
          ++ [.arrive ⟨2, "", #v["", "", ""], "/tmp/2"⟩, .proceed 1])
      ∧ ((start ⟨1000, 10, 10000, "/tmp/", ""⟩).run
        (lateTaker ⟨1, "help", #v["", "", ""], "/tmp/1"⟩)).sentHome = 1
      ∧ ((start ⟨1000, 10, 10000, "/tmp/", ""⟩).run
        (lateTaker ⟨1, "help", #v["", "", ""], "/tmp/1"⟩)).Drained
          ((start ⟨1000, 10, 10000, "/tmp/", ""⟩).run
            (lateTaker ⟨1, "help", #v["", "", ""], "/tmp/1"⟩
              ++ [.arrive ⟨2, "", #v["", "", ""], "/tmp/2"⟩, .proceed 1])) := by
  have inTurn : (start ⟨1000, 10, 10000, "/tmp/", ""⟩).InTurn
      (lateTaker ⟨1, "help", #v["", "", ""], "/tmp/1"⟩
        ++ [.arrive ⟨2, "", #v["", "", ""], "/tmp/2"⟩, .proceed 1]) := by
    decide +kernel
  have drains := shutdown_drains ⟨1000, 10, 10000, "/tmp/", ""⟩
    (lateTaker ⟨1, "help", #v["", "", ""], "/tmp/1"⟩)
    [.arrive ⟨2, "", #v["", "", ""], "/tmp/2"⟩, .proceed 1] inTurn
  exact ⟨inTurn, by decide +kernel, drains.1⟩

end Race

end AttachService
