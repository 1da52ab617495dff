/-
Module: AttachService.Proofs.Relaying.Accounts
Purpose: What a relaying keeps account of: the arrivals, the producers started for them, and what
  was reported.
Trusted boundary: none
Main exports: Arrival.channel?, Arrival.words?, Origin.request, Relaying.warning?, Relaying.Kept,
  Relaying.kept_run, Relaying.brought, Relaying.foreign_run
-/
import AttachService.Proofs.Race.Onward
import AttachService.Proofs.Relaying.Steps

namespace AttachService

/-! ### What things tell -/

/-- The channel that a request names. -/
def Arrival.channel? : Arrival → Option String
  | .request channel => some channel
  | .failure _ => none

/-- What is said of a failure. -/
def Arrival.words? : Arrival → Option String
  | .request _ => none
  | .failure words => some words

/-- The name that the thread was given and has not started a producer for. -/
def RelayPost.channel? : RelayPost → Option String
  | .starting channel => some channel
  | .listening | .reporting _ | .gone => none

/-- The failure that the thread was given and has not reported. -/
def RelayPost.words? : RelayPost → Option String
  | .reporting words => some words
  | .listening | .starting _ | .gone => none

namespace Origin

/-- What a producer from there comes with.  One that the thread has started asks for no command,
since that is on the channel. -/
def request : Origin → Submission
  | .relayed channel =>
      { version := Version.v2.number
        name := ""
        args := Vector.replicate 3 ""
        channel := channel }
  | .foreign request => request

/-- The channel that the thread has started it for. -/
def channel? : Origin → Option String
  | .relayed channel => some channel
  | .foreign _ => none

/-- What others came with. -/
def foreign? : Origin → Option Submission
  | .relayed _ => none
  | .foreign request => some request

end Origin

namespace Event

/-- What was reported of a stream that failed. -/
def words? : Event → Option String
  | .notice (.signalFailed words) => some words
  | _ => none

/-- Which channel was refused, and why. -/
def refusal? : Event → Option (String × Refusal)
  | .notice (.refused channel refusal) => some (channel, refusal)
  | _ => none

end Event

/-- The request that somebody else comes with. -/
def RelayMove.brings? : RelayMove → Option Submission
  | .atIntake (.arrive request) => some request
  | _ => none

namespace Race

variable {race after : Race} {m : Move}

theorem Tenure.move (tenure : race.Tenure) (m : Move) : (race.move m).Tenure :=
  move_cases tenure tenure.step

end Race

namespace Relaying

variable {r after : Relaying} {m : RelayMove} {k : Nat} {channel : String}
  {answer : Except Refusal Unit} {stream : List Arrival}

/-! ### Answers -/

/-- An answer is seen of a producer that the thread has started, once it has one. -/
theorem answer?_eq_some_iff :
    r.answer? k = some (channel, answer)
      ↔ r.origins[k]? = some (.relayed channel)
        ∧ ∃ p, r.race.producers[k]? = some p ∧ p.progress = .answered answer := by
  unfold answer?
  constructor
  · intro told
    split at told
    · next origin found =>
        cases told
        exact ⟨origin, _, found, rfl⟩
    · cases told
  · rintro ⟨origin, ⟨request, progress⟩, found, rfl⟩
    rw [origin, found]

/-- An answer lasts. -/
theorem answer?_of_extended (told : r.answer? k = some (channel, answer))
    (origins : r.origins <+: after.origins)
    (stays : ∀ {p : Producer}, r.race.producers[k]? = some p → p.progress = .answered answer →
      after.race.producers[k]? = some p) :
    after.answer? k = some (channel, answer) := by
  obtain ⟨origin, p, found, answered⟩ := answer?_eq_some_iff.1 told
  rw [answer?_eq_some_iff]
  refine ⟨?_, p, stays found answered, answered⟩
  obtain ⟨more, same⟩ := origins
  rw [← same, List.getElem?_append_left (List.getElem?_eq_some_iff.1 origin).1]
  exact origin

/-- Nobody is answered twice. -/
theorem Step.answer?_eq (step : r.Step m after) (tenure : r.race.Tenure)
    (told : r.answer? k = some (channel, answer)) : after.answer? k = some (channel, answer) := by
  cases step with
  | @others m =>
      apply answer?_of_extended told
      · exact List.prefix_refl _
      · intro p found answered
        exact Race.answered_run_eq tenure found answered [m]
  | come request =>
      apply answer?_of_extended told
      · exact List.prefix_append _ _
      · intro p found answered
        exact Race.answered_run_eq tenure found answered [.arrive request]
  | @start channel =>
      apply answer?_of_extended told
      · exact List.prefix_append _ _
      · intro p found answered
        exact Race.answered_run_eq tenure found answered [.arrive (Relay.submission channel)]
  | _ => exact told

/-- What a producer of the thread that has its answer is to report. -/
def warning? (r : Relaying) (k : Nat) : Option (String × Refusal) :=
  match r.answer? k with
  | some (channel, .error refusal) => some (channel, refusal)
  | _ => none

/-- What was done with what has come. -/
structure Kept (r : Relaying) (stream : List Arrival) : Prop where
  tenure : r.race.Tenure
  stream : r.heard ++ r.ahead = stream
  requests : r.race.producers.map Producer.request = r.origins.map Origin.request
  names : r.heard.filterMap Arrival.channel?
    = r.origins.filterMap Origin.channel? ++ r.post.channel?.toList
  failures : r.heard.filterMap Arrival.words?
    = r.events.filterMap Event.words? ++ r.post.words?.toList
  once : r.finished.Nodup
  answered : ∀ k ∈ r.finished, ∃ channel answer, r.answer? k = some (channel, answer)
  warnings : r.events.filterMap Event.refusal? = r.finished.filterMap r.warning?
  plain : ∀ event ∈ r.events, event.words?.isSome ∨ event.refusal?.isSome
  left : r.post = .gone → r.ahead = [] ∨ r.keeper ≠ .away
  awaited : r.keeper = .done → r.post = .gone

namespace Kept

/-- Answers last, so what was reported of them is still what there is to report. -/
theorem warnings_of_step (kept : r.Kept stream) (step : r.Step m after)
    (finished : after.finished = r.finished) :
    r.finished.filterMap r.warning? = after.finished.filterMap after.warning? := by
  rw [finished]
  apply List.filterMap_congr
  intro k done
  obtain ⟨channel, answer, told⟩ := kept.answered k done
  rw [warning?, warning?, told, step.answer?_eq kept.tenure told]

/-- Who was through is so still, and with the same answer. -/
theorem answered_of_step (kept : r.Kept stream) (step : r.Step m after)
    (finished : after.finished = r.finished) :
    ∀ k ∈ after.finished, ∃ channel answer, after.answer? k = some (channel, answer) := by
  rw [finished]
  intro k done
  obtain ⟨channel, answer, told⟩ := kept.answered k done
  exact ⟨channel, answer, step.answer?_eq kept.tenure told⟩

/-- A producer more, with where it comes from. -/
theorem requests_come (kept : r.Kept stream) (origin : Origin) :
    (r.come origin.request origin).race.producers.map Producer.request
      = (r.come origin.request origin).origins.map Origin.request := by
  simp [Relaying.come, Race.move, kept.requests]

/-- The keeper waits as long as the thread is there. -/
theorem awaited_of_present {post : RelayPost} (kept : r.Kept stream) (present : r.post ≠ .gone) :
    r.keeper = .done → post = .gone :=
  fun done => absurd (kept.awaited done) present

/-- A producer that is through reports what it has to, and nothing else. -/
theorem finish (kept : r.Kept stream) (fresh : k ∉ r.finished)
    (told : r.answer? k = some (channel, answer)) :
    Kept { r with
      finished := r.finished ++ [k]
      events := r.events ++ report channel answer } stream where
  tenure := kept.tenure
  stream := kept.stream
  requests := kept.requests
  names := kept.names
  failures := by cases answer <;> simp [kept.failures, report, Event.words?]
  once := kept.once.append (List.nodup_singleton k) (List.disjoint_singleton.2 fresh)
  answered := by
    intro j done
    obtain earlier | last := List.mem_append.1 done
    · exact kept.answered j earlier
    · rw [List.mem_singleton.1 last]
      exact ⟨channel, answer, told⟩
  warnings := by
    have warning : [k].filterMap r.warning? = (report channel answer).filterMap Event.refusal? := by
      cases answer <;> simp [warning?, told, report, Event.refusal?]
    rw [List.filterMap_append, kept.warnings, ← warning]
    exact List.filterMap_append.symm
  plain := by
    intro event member
    obtain earlier | last := List.mem_append.1 member
    · exact kept.plain event earlier
    · cases answer with
      | ok => cases last
      | error refusal =>
          rw [List.mem_singleton.1 last]
          exact .inr rfl
  left := kept.left
  awaited := kept.awaited

/-- Every item of the stream, every producer and every report is noted where it belongs. -/
theorem step (kept : r.Kept stream) (step : r.Step m after) : after.Kept stream := by
  cases step with
  | @others m nobody =>
      have step : r.Step _ _ := .others nobody
      exact { kept with
        tenure := kept.tenure.move m
        requests := (Race.requests_move r.race nobody).trans kept.requests
        answered := kept.answered_of_step step rfl
        warnings := kept.warnings.trans (kept.warnings_of_step step rfl) }
  | come request =>
      have step : r.Step _ _ := .come request
      exact { kept with
        tenure := kept.tenure.move (.arrive request)
        requests := kept.requests_come (.foreign request)
        names := by simp [Relaying.come, Origin.channel?, kept.names]
        answered := kept.answered_of_step step rfl
        warnings := kept.warnings.trans (kept.warnings_of_step step rfl) }
  | @hear arrival rest here next =>
      have present : r.post ≠ .gone := by simp [here]
      exact { kept with
        stream := by simpa [next] using kept.stream
        names := by
          cases arrival <;>
            simp [kept.names, here, RelayPost.channel?, Arrival.channel?, Arrival.post]
        failures := by
          cases arrival <;>
            simp [kept.failures, here, RelayPost.words?, Arrival.words?, Arrival.post]
        left := by cases arrival <;> simp [Arrival.post]
        awaited := kept.awaited_of_present present }
  | hearNothing here exhausted =>
      exact { kept with
        names := by simp [kept.names, here, RelayPost.channel?]
        failures := by simp [kept.failures, here, RelayPost.words?]
        left := fun _ => .inl exhausted
        awaited := fun _ => rfl }
  | @start channel here =>
      have step : r.Step _ _ := .start here
      have present : r.post ≠ .gone := by simp [here]
      exact { kept with
        tenure := kept.tenure.move (.arrive (Relay.submission channel))
        requests := kept.requests_come (.relayed channel)
        names := by simp [Relaying.come, Origin.channel?, kept.names, here, RelayPost.channel?]
        failures := by simp [Relaying.come, kept.failures, here, RelayPost.words?]
        answered := kept.answered_of_step step rfl
        warnings := kept.warnings.trans (kept.warnings_of_step step rfl)
        left := by simp
        awaited := kept.awaited_of_present present }
  | @report words here =>
      have present : r.post ≠ .gone := by simp [here]
      exact { kept with
        names := by simp [kept.names, here, RelayPost.channel?]
        failures := by simp [kept.failures, here, RelayPost.words?, Event.words?]
        warnings := by
          rw [List.filterMap_append, kept.warnings]
          exact List.append_nil _
        plain := by
          intro event member
          obtain earlier | last := List.mem_append.1 member
          · exact kept.plain event earlier
          · rw [List.mem_singleton.1 last]
            exact .inl rfl
        left := by simp
        awaited := kept.awaited_of_present present }
  | heed here told =>
      exact { kept with
        names := by simp [kept.names, here, RelayPost.channel?]
        failures := by simp [kept.failures, here, RelayPost.words?]
        left := fun _ => .inr told
        awaited := fun _ => rfl }
  | finish fresh told => exact kept.finish fresh told
  | tell =>
      exact { kept with
        left := fun _ => .inr (by simp)
        awaited := by simp }
  | join here gone =>
      exact { kept with
        left := fun _ => .inr (by simp)
        awaited := fun _ => gone }

end Kept

theorem kept_start (settings : Settings) (stream : List Arrival) :
    (start settings stream).Kept stream where
  tenure := Race.tenure_start settings
  stream := rfl
  requests := rfl
  names := rfl
  failures := rfl
  once := List.nodup_nil
  answered := by simp [start]
  warnings := rfl
  plain := by simp [start]
  left := by simp [start]
  awaited := by simp [start]

/-- At every moment all that has come is accounted for. -/
theorem kept_run (settings : Settings) (stream : List Arrival) (moves : List RelayMove) :
    ((start settings stream).run moves).Kept stream :=
  run_preserves Kept.step (kept_start settings stream) moves

/-! ### Whom the thread has nothing to do with -/

theorem Step.foreign (step : r.Step m after) :
    after.origins.filterMap Origin.foreign?
      = r.origins.filterMap Origin.foreign? ++ m.brings?.toList := by
  cases step with
  | @others m nobody =>
      have brings : RelayMove.brings? (.atIntake m) = none := by
        cases m with
        | arrive request => exact absurd rfl (nobody request)
        | _ => rfl
      rw [brings, Option.toList_none, List.append_nil]
  | come request => simp [Relaying.come, Origin.foreign?, RelayMove.brings?]
  | start => simp [Relaying.come, Origin.foreign?, RelayMove.brings?]
  | _ => exact (List.append_nil _).symm

/-- A producer of somebody else comes with a move of somebody else. -/
theorem foreign_move (r : Relaying) (m : RelayMove) :
    (r.move m).origins.filterMap Origin.foreign?
      = r.origins.filterMap Origin.foreign? ++ m.brings?.toList := by
  rcases r.move_eq_or_step m with same | step
  · cases m with
    | atIntake m =>
        cases m with
        | arrive request => exact Step.foreign (.come request)
        | _ => exact (List.append_nil _).symm
    | _ =>
        rw [same]
        exact (List.append_nil _).symm
  · exact step.foreign

/-- Producers that the thread has not started have come on their own. -/
theorem foreign_run (r : Relaying) (moves : List RelayMove) :
    (r.run moves).origins.filterMap Origin.foreign?
      = r.origins.filterMap Origin.foreign? ++ moves.filterMap RelayMove.brings? := by
  induction moves generalizing r with
  | nil => exact (List.append_nil _).symm
  | cons m rest ih =>
      rw [run_cons, ih, foreign_move, List.append_assoc, List.filterMap_cons]
      cases m.brings? <;> rfl

end Relaying

end AttachService
