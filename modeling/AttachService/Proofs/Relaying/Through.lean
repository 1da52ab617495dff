/-
Module: AttachService.Proofs.Relaying.Through
Purpose: The producers of the relay thread can always get through; and if nobody overtakes one, it
  does what a relay does with an arrival.
Trusted boundary: none
Main exports: RelayMove.onward, Relaying.finishAll, Relaying.underWay_finishAll,
  Relaying.exists_through, Relaying.receive_undisturbed
-/
import AttachService.Proofs.Relaying.Balance

namespace AttachService

/-- A step of somebody at the intake who is there already, or the last one of a producer. -/
def RelayMove.onward : RelayMove → Bool
  | .atIntake m => m.onward
  | .finish _ => true
  | .work | .heed | .stop => false

namespace Relaying

variable {r : Relaying} {k : Nat} {channel : String} {answer : Except Refusal Unit}
  {stream : List Arrival}

/-! ### Producers get through -/

theorem finish_eq (r : Relaying) (k : Nat) :
    (r.finish k).origins = r.origins ∧ (r.finish k).race = r.race := by
  rcases eq_or_step_finish r k with same | step
  · exact ⟨congrArg origins same, congrArg race same⟩
  · generalize r.finish k = after at step
    cases step with
    | finish => exact ⟨rfl, rfl⟩

/-- A report does not change an answer. -/
theorem answer?_finish (r : Relaying) (j k : Nat) : (r.finish j).answer? k = r.answer? k := by
  obtain ⟨origins, race⟩ := finish_eq r j
  rw [answer?, answer?, origins, race]

/-- A producer of the thread that has its answer gets through if it is let. -/
theorem mem_finished_finish (told : r.answer? k = some (channel, answer)) :
    k ∈ (r.finish k).finished := by
  unfold finish
  split
  · assumption
  · rw [told]
    exact List.mem_append_right _ (List.mem_singleton_self k)

/-- Who is through is not called back. -/
theorem finished_finish (done : k ∈ r.finished) (j : Nat) : k ∈ (r.finish j).finished := by
  rcases eq_or_step_finish r j with same | step
  · rw [same]
    exact done
  · generalize r.finish j = after at step
    cases step with
    | finish => exact List.mem_append_left _ done

/-- Let these producers get through, one after the other. -/
def finishAll (r : Relaying) (ks : List Nat) : Relaying := r.run (ks.map .finish)

/-- Everybody with an answer gets through if it is let. -/
theorem mem_finished_finishAll (ks : List Nat) (told : r.answer? k = some (channel, answer))
    (among : k ∈ ks ∨ k ∈ r.finished) : k ∈ (r.finishAll ks).finished := by
  induction ks generalizing r with
  | nil => exact among.resolve_left List.not_mem_nil
  | cons j rest ih =>
      apply ih
      · rw [← told]
        exact answer?_finish r j k
      · rcases among with listed | done
        · rcases List.mem_cons.1 listed with rfl | later
          · exact .inr (mem_finished_finish told)
          · exact .inl later
        · exact .inr (finished_finish done j)

theorem origins_finishAll (r : Relaying) (ks : List Nat) :
    (r.finishAll ks).origins = r.origins := by
  induction ks generalizing r with
  | nil => rfl
  | cons j rest ih => exact (ih (r.finish j)).trans (finish_eq r j).1

theorem trail_atIntake (r : Relaying) (moves : List Move) :
    r.trail (moves.map .atIntake) = moves := by
  induction moves generalizing r with
  | nil => rfl
  | cons m rest ih =>
      rw [List.map_cons, trail, ih]
      rfl

/-- For each origin there is a producer. -/
theorem Kept.exists_producer (kept : r.Kept stream) {origin : Origin}
    (found : r.origins[k]? = some origin) : ∃ p, r.race.producers[k]? = some p := by
  have same := congrArg (·[k]?) kept.requests
  simp only [List.getElem?_map, found, Option.map_some] at same
  obtain ⟨p, there, -⟩ := Option.map_eq_some_iff.1 same
  exact ⟨p, there⟩

/-- Once everybody has an answer, the producers of the thread get through one after the other. -/
theorem underWay_finishAll (kept : r.Kept stream)
    (answered : ∀ {j : Nat} {p : Producer}, r.race.producers[j]? = some p →
      ∃ answer, p.progress = .answered answer) :
    (r.finishAll (List.range r.origins.length)).underWay = [] := by
  unfold underWay
  rw [List.filter_eq_nil_iff]
  intro k own
  rw [mem_own, relayed_iff, origins_finishAll] at own
  obtain ⟨channel, found⟩ := own
  obtain ⟨p, there⟩ := kept.exists_producer found
  obtain ⟨answer, told⟩ := answered there
  have listed : k ∈ List.range r.origins.length :=
    List.mem_range.2 (List.getElem?_eq_some_iff.1 found).1
  have done := mem_finished_finishAll _ (answer?_eq_some_iff.2 ⟨found, p, there, told⟩)
    (.inl listed)
  simp [done]

/-- There is always a way on that gets all producers of the thread through, whatever it does
itself. -/
theorem exists_through (settings : Settings) (stream : List Arrival) (moves : List RelayMove) :
    ∃ later, (∀ m ∈ later, m.onward = true)
      ∧ ((start settings stream).run (moves ++ later)).underWay = [] := by
  let trail := (start settings stream).trail moves
  obtain ⟨more, onward, answered⟩ := Race.exists_all_answered settings trail
  let calm := (start settings stream).run (moves ++ more.map .atIntake)
  have race : calm.race = (Race.start settings).run (trail ++ more) := by
    rw [race_run, trail_append, trail_atIntake]
    rfl
  refine ⟨more.map .atIntake ++ (List.range calm.origins.length).map .finish, ?_, ?_⟩
  · intro m member
    rcases List.mem_append.1 member with early | late
    · obtain ⟨m, among, rfl⟩ := List.mem_map.1 early
      exact onward m among
    · obtain ⟨k, -, rfl⟩ := List.mem_map.1 late
      rfl
  · rw [← List.append_assoc, run_append]
    apply underWay_finishAll (kept_run settings stream _)
    intro j p found
    change calm.race.producers[j]? = some p at found
    rw [race] at found
    exact answered found

/-! ### A relay that nobody overtakes -/

/-- A producer in one piece is one submission and a report of what came of it. -/
theorem produce_eq (intake : Intake) (channel : String) :
    Relay.produce intake channel
      = ((intake.submit (Relay.submission channel)).2,
        report channel (intake.submit (Relay.submission channel)).1) := by
  unfold Relay.produce
  split
  · next submitted =>
      rw [submitted]
      rfl
  · next submitted =>
      rw [submitted]
      rfl

/-- The steps of a producer touch nothing but the race. -/
theorem run_press (r : Relaying) (k n : Nat) :
    r.run ((List.replicate n (.proceed k)).map .atIntake)
      = { r with race := r.race.press k n } := by
  induction n generalizing r with
  | zero => rfl
  | succ n ih =>
      rw [List.replicate_succ, List.map_cons, run_cons, ih]
      rfl

/-- A thread that listens, and then the producer it starts, go on until they are through.  If
nobody overtakes them, this is how a relay receives an arrival. -/
theorem receive_undisturbed (kept : r.Kept stream) (here : r.post = .listening)
    (unlocked : r.race.holder = none) {arrival : Arrival} {rest : List Arrival}
    (next : r.ahead = arrival :: rest) :
    ∃ moves relay events,
      Relay.receive ⟨r.race.intake, true⟩ arrival = (true, relay, events)
        ∧ (r.run moves).race.intake = relay.intake ∧ (r.run moves).events = r.events ++ events
        ∧ (r.run moves).post = .listening ∧ (r.run moves).ahead = rest := by
  cases arrival with
  | failure words =>
      refine ⟨[.work, .work], ⟨r.race.intake, true⟩, [.notice (.signalFailed words)], rfl, ?_⟩
      simp [move, work, here, next, Arrival.post]
  | request channel =>
      let k := r.race.producers.length
      let n := r.race.intake.settings.pollAttempts + 8
      let started : Relaying :=
        { r.come (Relay.submission channel) (.relayed channel) with
          ahead := rest
          heard := r.heard ++ [.request channel] }
      have starts : r.run [.work, .work] = started := by
        simp [move, work, here, next, Arrival.post, come, started]
      have numbers : r.origins.length = k := by
        simpa using (congrArg List.length kept.requests).symm
      have gone := Race.submit_undisturbed r.race (Relay.submission channel) unlocked 0
      rw [Nat.zero_add] at gone
      have fresh : k ∉ r.finished := by
        intro done
        obtain ⟨channel, answer, told⟩ := kept.answered k done
        obtain ⟨-, p, found, -⟩ := answer?_eq_some_iff.1 told
        exact absurd (List.getElem?_eq_some_iff.1 found).1 (Nat.lt_irrefl k)
      let pressed : Relaying := { started with race := started.race.press k n }
      have told : pressed.answer? k
          = some (channel, (r.race.intake.submit (Relay.submission channel)).1) := by
        refine answer?_eq_some_iff.2 ⟨?_, _, gone.told, rfl⟩
        change (r.origins ++ [_])[k]? = _
        rw [← numbers]
        exact List.getElem?_concat_length
      have received : Relay.receive ⟨r.race.intake, true⟩ (.request channel)
          = (true, ⟨(Relay.produce r.race.intake channel).1, true⟩,
            (Relay.produce r.race.intake channel).2) := rfl
      let waits : List RelayMove := [.work, .work]
      let acts : List RelayMove := (List.replicate n (.proceed k)).map .atIntake
      refine ⟨waits ++ acts ++ [.finish k], _, _, received, ?_⟩
      rw [run_append, run_append, starts, run_press, run_cons, run_nil, produce_eq]
      have finishes : pressed.move (.finish k) = _ := finish_of_answer (r := pressed) fresh told
      rw [finishes]
      exact ⟨gone.intake, rfl, here, rfl⟩

end Relaying

end AttachService
