/-
Module: AttachService.Proofs.Relaying.Faithful
Purpose: However it is overtaken, the relay thread hands each name on once, and each refusal of
  such a name is reported once.
Trusted boundary: none
Main exports: Relaying.Harmless, Relaying.ended_run, Relaying.toGo, Relaying.toGo_run,
  Relaying.gone_of_enough, Relaying.Faithful, Relaying.hands_each_on_once
-/
import AttachService.Proofs.Relaying.Through

namespace AttachService.Relaying

variable {r after : Relaying} {m : RelayMove} {moves : List RelayMove} {k : Nat} {p : Producer}
  {channel : String} {answer : Except Refusal Unit} {settings : Settings} {stream : List Arrival}

/-! ### What is done to the intake -/

/-- The thread, its keeper and a producer that is through do nothing to the intake. -/
theorem intake_move (r : Relaying) (elsewhere : ∀ move, m ≠ .atIntake move) :
    (r.move m).race.intake = r.race.intake := by
  rcases r.move_eq_or_step m with same | step
  · rw [same]
  · generalize r.move m = after at step
    cases step with
    | others | come => exact absurd rfl (elsewhere _)
    | _ => rfl

/-- No step that producer `k` took with these moves has changed the intake. -/
def Harmless (settings : Settings) (stream : List Arrival) (moves : List RelayMove) (k : Nat) :
    Prop :=
  ∀ before rest, moves = before ++ .atIntake (.proceed k) :: rest →
    ((start settings stream).run (before ++ [.atIntake (.proceed k)])).race.intake
      = ((start settings stream).run before).race.intake

/-- What leaves no trace at the intake by itself leaves none in the presence of the thread. -/
theorem harmless_of_traceless
    (traceless : Race.Traceless settings ((start settings stream).trail moves) k) :
    Harmless settings stream moves k := by
  rintro before rest rfl
  have step : (start settings stream).trail (before ++ [.atIntake (.proceed k)])
      = (start settings stream).trail before ++ [.proceed k] := trail_append _ _ _
  rw [race_run, race_run, step]
  apply traceless
  rw [trail_append]
  rfl

/-! ### The end of the thread -/

/-- What no longer changes once the thread is gone. -/
structure Ended (r after : Relaying) : Prop where
  gone : after.post = .gone
  heard : after.heard = r.heard
  started : after.origins.filterMap Origin.channel? = r.origins.filterMap Origin.channel?

/-- A thread that is gone hears nothing any more. -/
theorem ended_run (gone : r.post = .gone) (later : List RelayMove) : r.Ended (r.run later) := by
  refine run_preserves ?_ (⟨gone, rfl, rfl⟩ : r.Ended r) later
  intro before m after ended step
  cases step with
  | come request =>
      refine ⟨ended.gone, ended.heard, ?_⟩
      simp [come, Origin.channel?, ended.started]
  | hear here | hearNothing here | start here | report here | heed here =>
      cases ended.gone.symm.trans here
  | others | finish | tell | join => exact ⟨ended.gone, ended.heard, ended.started⟩

/-- How many steps the thread takes yet, if it is not told to leave. -/
def toGo (r : Relaying) : Nat :=
  match r.post with
  | .listening => 2 * r.ahead.length + 1
  | .starting _ | .reporting _ => 2 * r.ahead.length + 2
  | .gone => 0

/-- The thread has nothing left to do once it is gone, and not before. -/
theorem toGo_eq_zero_iff : r.toGo = 0 ↔ r.post = .gone := by
  unfold toGo
  cases r.post <;> simp

/-- Each step of the thread is one step less to go, and nobody adds any. -/
theorem toGo_step (step : r.Step m after) :
    after.toGo + (if m = .work then 1 else 0) ≤ r.toGo := by
  cases step with
  | others | come | finish | tell | join => exact Nat.le_refl _
  | @hear arrival rest here next =>
      cases arrival <;> simp [toGo, here, next, Arrival.post] <;> omega
  | hearNothing here exhausted => simp [toGo, here, exhausted]
  | start here => simp [toGo, here, come]
  | report here => simp [toGo, here]
  | heed here => simp [toGo]

/-- Every step of the thread brings it nearer to its end, and nobody can hold it up. -/
theorem toGo_move (r : Relaying) (m : RelayMove) :
    (r.move m).toGo ≤ r.toGo - if m = .work then 1 else 0 := by
  by_cases works : m = .work
  · subst works
    rcases gone_or_step_work r with ⟨gone, same⟩ | step
    · change r.work.toGo ≤ _
      rw [same, toGo_eq_zero_iff.2 gone]
      exact Nat.zero_le _
    · exact Nat.le_sub_of_add_le (toGo_step step)
  · rcases r.move_eq_or_step m with same | step
    · rw [same, if_neg works]
      exact Nat.le_refl _
    · exact Nat.le_sub_of_add_le (toGo_step step)

/-- With many moves the thread has as many steps less to go as are its own. -/
theorem toGo_run (r : Relaying) (later : List RelayMove) :
    (r.run later).toGo ≤ r.toGo - later.count .work := by
  induction later generalizing r with
  | nil => exact Nat.le_refl _
  | cons m rest ih =>
      have first := toGo_move r m
      have beyond := ih (r.move m)
      rw [run_cons, List.count_cons]
      simp only [beq_iff_eq]
      omega

/-- A thread that is let comes to its end. -/
theorem gone_of_enough {later : List RelayMove} (enough : r.toGo ≤ later.count .work) :
    (r.run later).post = .gone := by
  have left := toGo_run r later
  rw [← toGo_eq_zero_iff]
  omega

/-! ### The relay thread at work -/

/-- What the thread has made of its stream with these moves, and of the intake. -/
structure Faithful (settings : Settings) (stream : List Arrival) (moves : List RelayMove)
    (r : Relaying) : Prop where
  /-- The thread is given one item of the stream after the other. -/
  heard : r.heard ++ r.ahead = stream
  /-- For each name that it is given it starts one producer, in this order. -/
  started : r.taken = r.origins.filterMap Origin.channel? ++ r.post.channel?.toList
  /-- Such a producer hands in an empty request for that channel, and nobody else is there who
  has not come on its own. -/
  requests : r.race.producers.map Producer.request = r.origins.map Origin.request
  foreign : r.origins.filterMap Origin.foreign? = moves.filterMap RelayMove.brings?
  /-- Each failure is reported once. -/
  failures : r.heard.filterMap Arrival.words?
    = r.events.filterMap Event.words? ++ r.post.words?.toList
  /-- Neither a failure nor anybody else keeps the thread from hearing the rest. -/
  onward : ∀ later : List RelayMove, r.toGo ≤ later.count .work → (r.run later).post = .gone
  /-- It leaves only at the end of the stream, or if it is told to. -/
  left : r.post = .gone → r.ahead = [] ∨ r.keeper ≠ .away
  /-- Whoever is through has reported what it was told, if that was a refusal, and nothing else
  is reported. -/
  warned : r.warnings = r.finished.filterMap r.warning?
  once : r.finished.Nodup
  plain : ∀ event ∈ r.events, event.words?.isSome ∨ event.refusal?.isSome
  /-- A producer is answered as if it had acted in one go. -/
  answered : ∀ {k : Nat} {p : Producer} {answer : Except Refusal Unit},
    r.race.producers[k]? = some p → p.progress = .answered answer →
      Race.Answered settings ((start settings stream).trail moves) k p.request answer
  /-- A refusal changes nothing about the intake, and neither does the thread. -/
  harmless : ∀ {k : Nat} {p : Producer} {refusal : Refusal},
    r.race.producers[k]? = some p → p.progress = .answered (.error refusal) →
      Harmless settings stream moves k
  apart : ∀ m, (∀ move, m ≠ .atIntake move) → (r.move m).race.intake = r.race.intake
  accepted : ∀ {k : Nat} {request : Submission}, (k, request) ∈ r.accepted →
    ∃ channel, r.origins[k]? = some (.relayed channel)
      ∧ request = (Origin.relayed channel).request
  /-- Every name was accepted or a refusal was reported, unless its producer is under way, or is
  not started yet. -/
  balance : r.accepted.length + r.warnings.length + r.underWay.length
    + r.post.channel?.toList.length = r.taken.length
  /-- Nobody need be under way for ever. -/
  through : ∃ later, (∀ m ∈ later, m.onward = true)
    ∧ ((start settings stream).run (moves ++ later)).underWay = []
  /-- Once the thread is gone, nothing more is heard, and no producer is started. -/
  ended : r.post = .gone → ∀ later, r.Ended (r.run later)
  awaited : r.keeper = .done → r.post = .gone

/-- Each name that is given to the relay thread is handed in once, and each refusal of one is
reported once. -/
theorem hands_each_on_once (settings : Settings) (stream : List Arrival)
    (moves : List RelayMove) :
    Faithful settings stream moves ((start settings stream).run moves) := by
  have kept := kept_run settings stream moves
  have foreign := foreign_run (start settings stream) moves
  have race : ((start settings stream).run moves).race
      = (Race.start settings).run ((start settings stream).trail moves) := race_run _ moves
  have truthful := Race.truthful_run settings ((start settings stream).trail moves)
  have lined := Race.lined_run settings ((start settings stream).trail moves)
  rw [← race] at truthful lined
  exact {
    heard := kept.stream
    started := kept.names
    requests := kept.requests
    foreign := foreign
    failures := kept.failures
    onward := fun later enough => gone_of_enough enough
    left := kept.left
    warned := kept.warnings
    once := kept.once
    plain := kept.plain
    answered := by
      intro k p answer found told
      rw [race] at found
      exact Race.answered_run settings _ found told
    harmless := by
      intro k p refusal found refused
      rw [race] at found
      exact harmless_of_traceless (Race.traceless_of_refused found refused)
    apart := fun m elsewhere => intake_move _ elsewhere
    accepted := kept.mem_accepted truthful
    balance := balance kept truthful lined
    through := exists_through settings stream moves
    ended := ended_run
    awaited := kept.awaited }

/-- Two names with a failure between them.  The producer for the second one is through before the
first one has looked for readiness, and is refused for its channel. -/
example :
    let ready := (start ⟨1000, 10, 10000, "/tmp/", ""⟩
      [.request "/tmp/1", .failure "lost", .request "/srv/2"]).run
        [.atIntake .markReady, .atIntake .carryOn, .atIntake .carryOn]
    let heard := ready.run (List.replicate 6 .work)
    let stopped := heard.run [.stop, .atIntake (.proceed 1), .finish 1, .heed]
    let r := (stopped.run (List.replicate 8 (.atIntake (.proceed 0)))).run
      [.finish 0, .finish 0, .work]
    r.warnings = [("/srv/2", .illegal)] ∧ r.accepted.map Prod.fst = [0] ∧ r.finished = [1, 0]
      ∧ r.post = .gone ∧ r.taken.length = 2 := by
  decide +kernel

end AttachService.Relaying
