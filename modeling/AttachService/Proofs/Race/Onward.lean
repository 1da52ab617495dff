/-
Module: AttachService.Proofs.Race.Onward
Purpose: Whoever is at the intake can go on, without anybody new, until every producer has its
  answer.
Trusted boundary: none
Main exports: Move.onward, Race.requests_move, Race.exists_unlocked, Race.exists_answered,
  Race.exists_all_answered
-/
import AttachService.Proofs.Race.Aftermath
import AttachService.Proofs.Race.Crowd

namespace AttachService

/-- A step of somebody who is there already, and not the death of a consumer. -/
def Move.onward : Move → Bool
  | .proceed _ | .carryOn => true
  | _ => false

namespace Race

variable {settings : Settings} {race after : Race} {m : Move} {moves : List Move} {k : Nat}
  {p : Producer}

/-! ### Producers keep their requests -/

/-- A producer keeps its request on its way. -/
theorem requests_advance (race : Race) (k : Nat) (progress : Progress) :
    (race.advance k progress).producers.map Producer.request
      = race.producers.map Producer.request := by
  apply List.ext_getElem?
  intro j
  rw [List.getElem?_map, List.getElem?_map]
  by_cases same : k = j
  · subst same
    cases found : race.producers[k]? with
    | none => rw [getElem?_advance_of_none found]
    | some p =>
        rw [getElem?_advance_self found]
        rfl
  · rw [getElem?_advance_of_ne same]

/-- The requests are the same after any move but an arrival. -/
theorem requests_move (race : Race) (nobody : ∀ request, m ≠ .arrive request) :
    (race.move m).producers.map Producer.request = race.producers.map Producer.request := by
  rcases race.move_eq_or_step m with same | step
  · rw [same]
  · generalize race.move m = after at step
    cases step with
    | arrive request => exact absurd rfl (nobody request)
    | sleep | pass | refuse | enter | leave => exact requests_advance _ _ _
    | _ => rfl

/-- Nobody comes while those who are there go on. -/
theorem length_producers_run (race : Race) (onward : ∀ m ∈ moves, m.onward = true) :
    (race.run moves).producers.length = race.producers.length := by
  induction moves generalizing race with
  | nil => rfl
  | cons m rest ih =>
      have nobody : ∀ request, m ≠ .arrive request := by
        rintro request rfl
        cases onward _ List.mem_cons_self
      have same := congrArg List.length (requests_move race nobody)
      rw [List.length_map, List.length_map] at same
      rw [run_cons, ih _ fun m member => onward m (List.mem_cons_of_mem _ member), same]

theorem onward_append {first second : List Move} (before : ∀ m ∈ first, m.onward = true)
    (beyond : ∀ m ∈ second, m.onward = true) : ∀ m ∈ first ++ second, m.onward = true := by
  intro m member
  exact (List.mem_append.1 member).elim (before m) (beyond m)

theorem onward_press (k n : Nat) : ∀ m ∈ List.replicate n (Move.proceed k), m.onward = true := by
  intro m member
  rw [List.eq_of_mem_replicate member]
  rfl

/-! ### Everybody gets an answer -/

/-- A consumer that has the lock gives it back, whether or not it finds a request. -/
theorem holder_of_consumer
    (holds : race.holder = some .taker ∨ ∃ i, race.holder = some (.bearer i)) :
    (race.run (List.replicate 3 .carryOn)).holder = none := by
  rcases holds with holds | ⟨i, holds⟩
  · cases found : race.intake.pull? with
    | none => simp [List.replicate, move, carryOn, holds, found]
    | some pulled => simp [List.replicate, move, carryOn, holds, found]
  · simp [List.replicate, move, carryOn, holds]

/-- Whoever has the lock gives it back with steps of its own. -/
theorem exists_unlocked (tenure : race.Tenure) :
    ∃ more : List Move, (∀ m ∈ more, m.onward = true) ∧ (race.run more).holder = none := by
  by_cases consumer : race.holder = some .taker ∨ ∃ i, race.holder = some (.bearer i)
  · refine ⟨_, fun m member => ?_, holder_of_consumer consumer⟩
    rw [List.eq_of_mem_replicate member]
    rfl
  · rw [not_or, not_exists] at consumer
    obtain ⟨more, steps, unlocked⟩ := exists_released tenure consumer
    refine ⟨more, fun m member => ?_, unlocked⟩
    rcases steps m member with rfl | ⟨k, rfl⟩ <;> rfl

/-- A producer that is let gets its answer, whenever nobody holds the lock. -/
theorem exists_answered (settings : Settings) (moves : List Move)
    (unlocked : ((start settings).run moves).holder = none)
    (found : ((start settings).run moves).producers[k]? = some p) :
    ∃ n outcome, (((start settings).run moves).press k n).Gone k p outcome := by
  have past := (known_run settings moves k).past found
  have same := settings_run settings moves
  have tenure := tenure_run settings moves
  generalize (start settings).run moves = race at *
  cases here : p.progress with
  | waiting sleeps =>
      by_cases ready : race.intake.ready = true
      · exact ⟨_, _, gone_of_ready found here unlocked ready 0⟩
      · rw [here] at past
        cases past with
        | waiting seen patient =>
            have patience : sleeps + (settings.pollAttempts - sleeps)
                = race.intake.settings.pollAttempts := by
              rw [same]
              exact Nat.add_sub_cancel' patient
            have unready : race.intake.ready = false := Bool.eq_false_iff.2 ready
            exact ⟨_, _, gone_of_unready found here unlocked unready patience 0⟩
  | checked => exact ⟨_, _, gone_of_checked found here unlocked 0⟩
  | inside =>
      have holds := tenure.inside found here
      rw [insider, unlocked] at holds
      cases holds
  | answered answer =>
      refine ⟨0, (answer, race.intake), rfl, ?_, unlocked⟩
      rw [← here]
      exact found

/-- The first `count` producers all get an answer. -/
theorem exists_answered_below (settings : Settings) (moves : List Move)
    (unlocked : ((start settings).run moves).holder = none) (count : Nat) :
    ∃ more, (∀ m ∈ more, m.onward = true)
      ∧ ((start settings).run (moves ++ more)).holder = none
      ∧ ∀ {j : Nat} {p : Producer}, j < count →
        ((start settings).run (moves ++ more)).producers[j]? = some p →
          ∃ answer, p.progress = .answered answer := by
  induction count with
  | zero =>
      refine ⟨[], by simp, by simpa using unlocked, ?_⟩
      intro j p early
      cases early
  | succ count ih =>
      obtain ⟨more, steps, unlocked, before⟩ := ih
      cases found : ((start settings).run (moves ++ more)).producers[count]? with
      | none =>
          refine ⟨more, steps, unlocked, fun {j p} early there => ?_⟩
          rcases Nat.lt_succ_iff_lt_or_eq.1 early with earlier | rfl
          · exact before earlier there
          · cases found.symm.trans there
      | some q =>
          obtain ⟨n, outcome, gone⟩ := exists_answered settings (moves ++ more) unlocked found
          refine ⟨more ++ List.replicate n (.proceed count),
            onward_append steps (onward_press count n), ?_⟩
          rw [← List.append_assoc, run_append]
          refine ⟨gone.unlocked, fun {j p} early there => ?_⟩
          rcases Nat.lt_succ_iff_lt_or_eq.1 early with earlier | rfl
          · have bound : j < ((start settings).run (moves ++ more)).producers.length := by
              rw [← length_producers_press _ count n]
              exact (List.getElem?_eq_some_iff.1 there).1
            have found := List.getElem?_eq_getElem bound
            obtain ⟨answer, told⟩ := before earlier found
            have kept := answered_run_eq (tenure_run settings _) found told
              (List.replicate n (.proceed count))
            cases there.symm.trans kept
            exact ⟨answer, told⟩
          · cases there.symm.trans gone.told
            exact ⟨_, rfl⟩

/-- There is always a way on, without anybody new, that answers everybody who has come. -/
theorem exists_all_answered (settings : Settings) (moves : List Move) :
    ∃ more, (∀ m ∈ more, m.onward = true)
      ∧ ∀ {j : Nat} {p : Producer},
        ((start settings).run (moves ++ more)).producers[j]? = some p →
          ∃ answer, p.progress = .answered answer := by
  obtain ⟨unlock, first, unlocked⟩ := exists_unlocked (tenure_run settings moves)
  rw [← run_append] at unlocked
  let count := ((start settings).run (moves ++ unlock)).producers.length
  obtain ⟨more, second, -, answered⟩ := exists_answered_below settings _ unlocked count
  refine ⟨unlock ++ more, onward_append first second, ?_⟩
  rw [← List.append_assoc]
  intro j p found
  apply answered _ found
  have bound := (List.getElem?_eq_some_iff.1 found).1
  rw [run_append, length_producers_run _ second] at bound
  exact bound

end Race

end AttachService
