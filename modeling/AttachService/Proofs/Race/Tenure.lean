/-
Module: AttachService.Proofs.Race.Tenure
Purpose: The producer inside is the one that holds the lock, with a request that was checked.
Trusted boundary: none
Main exports: Race.insider, Race.Tenure, Race.Tenure.step, Race.of_getElem?_advance,
  Race.Step.answered_eq
-/
import AttachService.Proofs.Race.Steps

namespace AttachService.Race

variable {race after : Race} {m : Move} {j k : Nat} {p q : Producer} {request : Submission}
  {progress : Progress}

/-! ### The list of producers -/

theorem getElem?_advance_self (found : race.producers[k]? = some p) :
    (race.advance k progress).producers[k]? = some { p with progress := progress } := by
  simp [advance, found]

/-- What one producer does is not seen in another one. -/
theorem getElem?_advance_of_ne (other : k ≠ j) :
    (race.advance k progress).producers[j]? = race.producers[j]? := by
  simp [advance, other]

/-- Nobody comes by the steps of others. -/
theorem getElem?_advance_of_none (unknown : race.producers[j]? = none) :
    (race.advance k progress).producers[j]? = none := by
  rw [List.getElem?_eq_none_iff] at unknown ⊢
  rw [advance, List.length_modify]
  exact unknown

/-- Whoever has come to another point than producer `k` is somebody else. -/
theorem getElem?_advance_of_progress_ne (found : race.producers[k]? = some p)
    (there : race.producers[j]? = some q) (other : p.progress ≠ q.progress) :
    (race.advance k progress).producers[j]? = some q := by
  have apart : k ≠ j := by
    rintro rfl
    rw [found] at there
    cases there
    exact other rfl
  rw [getElem?_advance_of_ne apart, there]

/-- After a step of producer `k` it has come as far as that, and all others have stayed. -/
theorem of_getElem?_advance (found : race.producers[k]? = some p)
    (here : (race.advance k progress).producers[j]? = some q) :
    j = k ∧ q = { p with progress := progress } ∨ k ≠ j ∧ race.producers[j]? = some q := by
  by_cases same : k = j
  · subst same
    rw [getElem?_advance_self found] at here
    exact .inl ⟨rfl, (Option.some.inj here).symm⟩
  · rw [getElem?_advance_of_ne same] at here
    exact .inr ⟨same, here⟩

theorem getElem?_concat_of_some (found : race.producers[k]? = some p) :
    (race.producers ++ [q])[k]? = some p := by
  obtain ⟨bound, -⟩ := List.getElem?_eq_some_iff.1 found
  rw [List.getElem?_append_left bound]
  exact found

/-- Whoever has just come to a list is the last one there. -/
theorem of_getElem?_concat {α : Type} {xs : List α} {x y : α} {j : Nat}
    (here : (xs ++ [x])[j]? = some y) : xs[j]? = some y ∨ j = xs.length ∧ y = x := by
  rcases Nat.lt_trichotomy j xs.length with before | rfl | beyond
  · rw [List.getElem?_append_left before] at here
    exact .inl here
  · rw [List.getElem?_concat_length] at here
    exact .inr ⟨rfl, (Option.some.inj here).symm⟩
  · rw [List.getElem?_eq_none (by simpa using Nat.succ_le_of_lt beyond)] at here
    cases here

/-! ### Who is inside -/

/-- The producer that holds the lock, with its request. -/
def insider (race : Race) : Option (Nat × Submission) :=
  match race.holder with
  | some (.producer k request _) => some (k, request)
  | _ => none

/-- What is known of a producer from how far it has come. -/
structure Tenure (race : Race) : Prop where
  known : ∀ {k request}, race.insider = some (k, request) →
    ∃ p, race.producers[k]? = some p ∧ p.progress = .inside ∧ p.request = request
  inside : ∀ {k : Nat} {p : Producer}, race.producers[k]? = some p → p.progress = .inside →
    race.insider = some (k, p.request)
  fits : ∀ {k : Nat} {p : Producer}, race.producers[k]? = some p →
    p.progress = .checked ∨ p.progress = .inside → p.request.Fits

namespace Tenure

/-- Only the producers and the lock matter. -/
theorem congr (tenure : race.Tenure) (producers : after.producers = race.producers)
    (insider : after.insider = race.insider) : after.Tenure where
  known holds := by
    rw [insider] at holds
    rw [producers]
    exact tenure.known holds
  inside found here := by
    rw [producers] at found
    rw [insider]
    exact tenure.inside found here
  fits found here := by
    rw [producers] at found
    exact tenure.fits found here

/-- A producer that is not inside may take a step that does not lead inside. -/
theorem advance (tenure : race.Tenure) (found : race.producers[k]? = some p)
    (before : p.progress ≠ .inside) (beyond : progress ≠ .inside)
    (fits : progress = .checked → p.request.Fits) : (race.advance k progress).Tenure where
  known {j request} holds := by
    obtain ⟨q, there, inside, same⟩ := tenure.known holds
    refine ⟨q, getElem?_advance_of_progress_ne found there ?_, inside, same⟩
    rw [inside]
    exact before
  inside here within := by
    rcases of_getElem?_advance found here with ⟨rfl, rfl⟩ | ⟨-, there⟩
    · exact absurd within beyond
    · exact tenure.inside there within
  fits here place := by
    rcases of_getElem?_advance found here with ⟨rfl, rfl⟩ | ⟨-, there⟩
    · exact fits (place.resolve_right beyond)
    · exact tenure.fits there place

/-- A producer that has just come is not inside, and not checked. -/
theorem arrive (tenure : race.Tenure) (fresh : Submission) :
    ({ race with producers := race.producers ++ [{ request := fresh }] } : Race).Tenure where
  known holds := by
    obtain ⟨p, found, inside, same⟩ := tenure.known holds
    exact ⟨p, getElem?_concat_of_some found, inside, same⟩
  inside here within := by
    rcases of_getElem?_concat here with there | ⟨-, rfl⟩
    · exact tenure.inside there within
    · cases within
  fits here place := by
    rcases of_getElem?_concat here with there | ⟨-, rfl⟩
    · exact tenure.fits there place
    · rcases place with checked | within
      · cases checked
      · cases within

/-- Only a checked producer gets the lock, and only when nobody is inside. -/
theorem enter {entered : List Nat} (tenure : race.Tenure) (found : race.producers[k]? = some p)
    (here : p.progress = .checked) (unlocked : race.holder = none) :
    ({ race.advance k .inside with
        holder := some (.producer k p.request .entered), entered := entered } : Race).Tenure where
  known holds := by
    cases holds
    exact ⟨_, getElem?_advance_self found, rfl, rfl⟩
  inside there within := by
    rcases of_getElem?_advance found there with ⟨rfl, rfl⟩ | ⟨-, stays⟩
    · rfl
    · have nobody := tenure.inside stays within
      rw [insider, unlocked] at nobody
      cases nobody
  fits there place := by
    rcases of_getElem?_advance found there with ⟨rfl, rfl⟩ | ⟨-, stays⟩
    · have checked : p.request.Fits := tenure.fits found (.inl here)
      exact checked
    · exact tenure.fits stays place

/-- Whoever gives the lock back was the only one inside. -/
theorem leave {answer : Except Refusal Unit} (tenure : race.Tenure)
    (holds : race.holder = some (.producer k request (.leaving answer))) :
    ({ race.advance k (.answered answer) with holder := none } : Race).Tenure := by
  have only : race.insider = some (k, request) := by rw [insider, holds]
  obtain ⟨p, found, -, -⟩ := tenure.known only
  exact {
    known := by
      intro j other nobody
      cases nobody
    inside := by
      intro j q there within
      rcases of_getElem?_advance found there with ⟨rfl, rfl⟩ | ⟨other, stays⟩
      · cases within
      · have same := tenure.inside stays within
        rw [only] at same
        cases same
        exact absurd rfl other
    fits := by
      intro j q there place
      rcases of_getElem?_advance found there with ⟨rfl, rfl⟩ | ⟨-, stays⟩
      · rcases place with checked | within
        · cases checked
        · cases within
      · exact tenure.fits stays place }

/-- No step lets a second producer in, or takes the lock from the first. -/
theorem step (tenure : race.Tenure) (step : race.Step m after) : after.Tenure := by
  cases step with
  | arrive fresh => exact tenure.arrive fresh
  | sleep found here => exact tenure.advance found (by simp [here]) (by simp) (by simp)
  | pass found here _ acceptable =>
      exact tenure.advance found (by simp [here]) (by simp) fun _ => acceptable.1
  | refuse found reason =>
      refine tenure.advance found ?_ (by simp) (by simp)
      rcases reason.outside with here | ⟨sleeps, here⟩
      · simp [here]
      · simp [here]
  | enter found here unlocked => exact tenure.enter found here unlocked
  | leave holds => exact tenure.leave holds
  | sendHome | acquire | close => exact tenure.congr rfl rfl
  | lockToOpen unlocked | lockToClose unlocked | lockToTake unlocked =>
      exact tenure.congr rfl (by simp only [insider, unlocked])
  | welcome holds | turnAway holds | reserve holds | overflow holds | announce holds
  | fill holds | enlist holds | markReady holds | comeLate holds | markClosed holds
  | markUnready holds | withdraw holds | findNothing holds | take holds | giveBack holds
  | depart holds | die holds =>
      exact tenure.congr rfl (by simp only [insider, holds])

end Tenure

/-- A producer that has its answer takes no more steps. -/
theorem Step.answered_eq {answer : Except Refusal Unit} (step : race.Step m after)
    (tenure : race.Tenure) (found : race.producers[k]? = some p)
    (told : p.progress = .answered answer) : after.producers[k]? = some p := by
  cases step with
  | arrive => exact getElem?_concat_of_some found
  | sleep there here | pass there here | enter there here =>
      exact getElem?_advance_of_progress_ne there found (by simp [here, told])
  | refuse there reason =>
      refine getElem?_advance_of_progress_ne there found ?_
      rcases reason.outside with here | ⟨sleeps, here⟩
      · simp [here, told]
      · simp [here, told]
  | leave holds =>
      obtain ⟨q, there, here, -⟩ := tenure.known (by rw [insider, holds])
      exact getElem?_advance_of_progress_ne there found (by simp [here, told])
  | _ => exact found

theorem tenure_start (settings : Settings) : (start settings).Tenure where
  known holds := by cases holds
  inside found := by cases found
  fits found := by cases found

/-- At any moment at most one producer is inside. -/
theorem tenure_run (settings : Settings) (moves : List Move) :
    ((start settings).run moves).Tenure :=
  run_preserves Tenure.step (tenure_start settings) moves

end AttachService.Race
