/-
Module: AttachService.Proofs.Race.Steps
Purpose: All that a move of a race can come to, said once, and induction over runs.
Trusted boundary: none
Main exports: Race.Refuses, Race.TurnsAway, Race.Step, Race.move_eq_or_step, Race.run_preserves
-/
import AttachService.Intake.Race
import AttachService.Proofs.Intake.Handling

namespace AttachService.Race

/-!
`Race.move` asks at every point whether the party that moves is there and need not wait.
`Step` lists what is left when it is and need not, one constructor for each point of each
party's way.  Every invariant of a race is a case distinction on it.
-/

/-- Why a producer is refused before it has the lock. -/
inductive Refuses (race : Race) (p : Producer) : Refusal → Prop where
  /-- It has looked for the last time. -/
  | unseen (here : p.progress = .waiting race.intake.settings.pollAttempts)
      (unready : race.intake.ready = false) : Refuses race p .disabled
  | unacceptable {sleeps : Nat} (here : p.progress = .waiting sleeps)
      (ready : race.intake.ready = true)
      (flawed : ¬ p.request.Acceptable race.intake.settings.channelPrefix) :
      Refuses race p .illegal
  | poisoned (here : p.progress = .checked) (unlocked : race.holder = none)
      (poisoned : race.intake.poisoned = true) : Refuses race p .broken

/-- Why a producer is refused after it took the lock. -/
inductive TurnsAway (race : Race) : Stage → Refusal → Prop where
  | unready (unready : race.intake.ready = false) : TurnsAway race .entered .disabled
  | exhausted (empty : race.intake.chains.takeFree = none) : TurnsAway race .welcome .exhausted

/-- What a move that changes anything comes to. -/
inductive Step (race : Race) : Move → Race → Prop where
  | arrive (request : Submission) :
      Step race (.arrive request)
        { race with producers := race.producers ++ [{ request := request }] }
  /-- A producer is not welcome yet, and still patient. -/
  | sleep {k : Nat} {p : Producer} {sleeps : Nat}
      (found : race.producers[k]? = some p) (here : p.progress = .waiting sleeps)
      (unready : race.intake.ready = false)
      (patient : sleeps ≠ race.intake.settings.pollAttempts) :
      Step race (.proceed k) (race.advance k (.waiting (sleeps + 1)))
  | pass {k : Nat} {p : Producer} {sleeps : Nat}
      (found : race.producers[k]? = some p) (here : p.progress = .waiting sleeps)
      (ready : race.intake.ready = true)
      (acceptable : p.request.Acceptable race.intake.settings.channelPrefix) :
      Step race (.proceed k) (race.advance k .checked)
  /-- A producer is refused before it has the lock. -/
  | refuse {k : Nat} {p : Producer} {refusal : Refusal}
      (found : race.producers[k]? = some p) (reason : race.Refuses p refusal) :
      Step race (.proceed k) (race.advance k (.answered (.error refusal)))
  | enter {k : Nat} {p : Producer}
      (found : race.producers[k]? = some p) (here : p.progress = .checked)
      (unlocked : race.holder = none) (sane : race.intake.poisoned = false) :
      Step race (.proceed k)
        { race.advance k .inside with
          holder := some (.producer k p.request .entered)
          entered := race.entered ++ [k] }
  | welcome {k : Nat} {request : Submission}
      (holds : race.holder = some (.producer k request .entered))
      (ready : race.intake.ready = true) :
      Step race (.proceed k) { race with holder := some (.producer k request .welcome) }
  /-- A producer is refused after it took the lock, and has touched nothing. -/
  | turnAway {k : Nat} {request : Submission} {stage : Stage} {refusal : Refusal}
      (holds : race.holder = some (.producer k request stage))
      (reason : race.TurnsAway stage refusal) :
      Step race (.proceed k)
        { race with holder := some (.producer k request (.leaving (.error refusal))) }
  | reserve {k : Nat} {request : Submission} {i : SlotId} {chains : Chains}
      (holds : race.holder = some (.producer k request .welcome))
      (found : race.intake.chains.takeFree = some (i, chains)) :
      Step race (.proceed k)
        { race with
          intake := { race.intake with chains := chains }
          holder := some (.producer k request (.reserved i)) }
  /-- The semaphore has no room for an announcement. -/
  | overflow {k : Nat} {request : Submission} {i : SlotId}
      (holds : race.holder = some (.producer k request (.reserved i)))
      (full : race.intake.announce? = none) :
      Step race (.proceed k)
        { race with
          intake := race.intake.vacate i
          holder := some (.producer k request (.leaving (.error .broken))) }
  | announce {k : Nat} {request : Submission} {i : SlotId}
      (holds : race.holder = some (.producer k request (.reserved i)))
      (room : race.intake.pending.count < race.intake.pending.max) :
      Step race (.proceed k)
        { race with
          intake := { race.intake with
            pending := { race.intake.pending with count := race.intake.pending.count + 1 } }
          holder := some (.producer k request (.announced i)) }
  | fill {k : Nat} {request : Submission} {i : SlotId}
      (holds : race.holder = some (.producer k request (.announced i))) :
      Step race (.proceed k)
        { race with
          intake := race.intake.copyIn i request
          holder := some (.producer k request (.filled i)) }
  | enlist {k : Nat} {request : Submission} {i : SlotId}
      (holds : race.holder = some (.producer k request (.filled i))) :
      Step race (.proceed k)
        { race with
          intake := race.intake.enlist i
          holder := some (.producer k request (.leaving (.ok ())))
          accepted := race.accepted ++ [(k, request)] }
  | leave {k : Nat} {request : Submission} {answer : Except Refusal Unit}
      (holds : race.holder = some (.producer k request (.leaving answer))) :
      Step race (.proceed k) { race.advance k (.answered answer) with holder := none }
  | lockToOpen (unlocked : race.holder = none) :
      Step race .markReady { race with holder := some .opener }
  | markReady (holds : race.holder = some .opener) (opened : race.intake.closed = false) :
      Step race .carryOn
        { race with
          intake := { race.intake with ready := true }
          holder := some .departing }
  /-- The intake is closed already, and stays as it is. -/
  | comeLate (holds : race.holder = some .opener) (closed : race.intake.closed = true) :
      Step race .carryOn { race with holder := some .departing }
  | lockToClose (unlocked : race.holder = none) :
      Step race .withdraw { race with holder := some .closer }
  | markClosed (holds : race.holder = some .closer) :
      Step race .carryOn
        { race with intake := race.intake.markClosed, holder := some .withdrawer }
  | markUnready (holds : race.holder = some .withdrawer) :
      Step race .carryOn
        { race with intake := race.intake.markUnready, holder := some .withdrawn }
  | withdraw (holds : race.holder = some .withdrawn) :
      Step race .carryOn { race with holder := none, closing := race.closing + 1 }
  | close {closing : Nat} (left : race.closing = closing + 1) :
      Step race .close { race with intake := race.intake.closePending, closing := closing }
  | acquire {count : Nat} (left : race.intake.pending.count = count + 1) :
      Step race .acquire
        { race with
          intake := { race.intake with pending := { race.intake.pending with count := count } }
          owed := race.owed + 1 }
  | sendHome (empty : race.intake.pending.count = 0)
      (closed : race.intake.pending.closed = true) :
      Step race .acquire { race with sentHome := race.sentHome + 1 }
  | lockToTake (unlocked : race.holder = none) (unit : 0 < race.owed) :
      Step race .take { race with holder := some .taker }
  | findNothing (holds : race.holder = some .taker) (empty : race.intake.pull? = none) :
      Step race .carryOn { race with holder := some .departing, owed := race.owed - 1 }
  | take {i : SlotId} {chains : Chains} (holds : race.holder = some .taker)
      (found : race.intake.chains.takeHead = some (i, chains)) :
      Step race .carryOn
        { race with
          intake := { race.intake with chains := chains }
          holder := some (.bearer i)
          owed := race.owed - 1
          taken := race.taken ++ [(chains.slot i).contents] }
  | giveBack {i : SlotId} (holds : race.holder = some (.bearer i)) :
      Step race .carryOn
        { race with intake := race.intake.vacate i, holder := some .departing }
  | depart (holds : race.holder = some .departing) :
      Step race .carryOn { race with holder := none }
  | die {i : SlotId} (holds : race.holder = some (.bearer i)) :
      Step race .die
        { race with intake := race.intake.poison, holder := none, lost := race.lost ++ [i] }

variable {race : Race} {k : Nat} {p : Producer} {refusal : Refusal} {stage : Stage}

/-! ### Refusals -/

/-- A producer is refused early only where it has not come to the lock. -/
theorem Refuses.outside (reason : race.Refuses p refusal) :
    p.progress = .checked ∨ ∃ sleeps, p.progress = .waiting sleeps := by
  cases reason with
  | unseen here | unacceptable here => exact .inr ⟨_, here⟩
  | poisoned here => exact .inl here

theorem Refuses.is_poisoned (reason : race.Refuses p .broken) : race.intake.poisoned = true := by
  cases reason with
  | poisoned _ _ poisoned => exact poisoned

/-- A producer with the lock is turned away only before it has a slot. -/
theorem TurnsAway.early (reason : race.TurnsAway stage refusal) :
    stage = .entered ∨ stage = .welcome := by
  cases reason with
  | unready => exact .inl rfl
  | exhausted => exact .inr rfl

/-- A producer with the lock does not find the intake broken. -/
theorem TurnsAway.ne_broken (reason : race.TurnsAway stage refusal) : refusal ≠ .broken := by
  cases reason <;> simp

/-! ### The inversion -/

/-- A look always changes something, if only how often there was one. -/
theorem step_look {sleeps : Nat} (found : race.producers[k]? = some p)
    (here : p.progress = .waiting sleeps) :
    race.Step (.proceed k) (race.look k p.request sleeps) := by
  unfold look
  split
  · next ready =>
      split
      · next acceptable => exact .pass found here ready acceptable
      · next flawed => exact .refuse found (.unacceptable here ready flawed)
  · next unready =>
      rw [Bool.not_eq_true] at unready
      split
      · next last =>
          subst last
          exact .refuse found (.unseen here unready)
      · next patient => exact .sleep found here unready patient

/-- A producer that finds the lock taken waits. -/
theorem eq_or_step_enter (found : race.producers[k]? = some p) (here : p.progress = .checked) :
    race.enter k p.request = race ∨ race.Step (.proceed k) (race.enter k p.request) := by
  unfold enter
  split
  · exact .inl rfl
  · next unlocked =>
      have unlocked : race.holder = none := by simpa using unlocked
      split
      · next poisoned => exact .inr (.refuse found (.poisoned here unlocked poisoned))
      · next sane => exact .inr (.enter found here unlocked (by simpa using sane))

/-- A producer that has the lock always goes on. -/
theorem step_handle {request : Submission} {stage : Stage}
    (holds : race.holder = some (.producer k request stage)) :
    race.Step (.proceed k) (race.handle k request stage) := by
  cases stage with
  | entered =>
      simp only [handle]
      split
      · next ready => exact .welcome holds ready
      · next unready => exact .turnAway holds (.unready (by simpa using unready))
  | welcome =>
      simp only [handle]
      split
      · next empty => exact .turnAway holds (.exhausted (Intake.reserve?_eq_none_iff.1 empty))
      · next i intake found =>
          obtain ⟨chains, taken, rfl⟩ := Intake.reserve?_eq_some_iff.1 found
          exact .reserve holds taken
  | reserved i =>
      simp only [handle]
      split
      · next full => exact .overflow holds full
      · next intake announced =>
          obtain ⟨room, rfl⟩ := Intake.announce?_eq_some_iff.1 announced
          exact .announce holds room
  | announced i => exact .fill holds
  | filled i => exact .enlist holds
  | leaving answer => exact .leave holds

/-- A producer that takes no step is through, or waits for the lock. -/
theorem eq_or_step_proceed (found : race.producers[k]? = some p) :
    race.proceed k p = race ∨ race.Step (.proceed k) (race.proceed k p) := by
  unfold proceed
  split
  · next sleeps here => exact .inr (step_look found here)
  · next here => exact eq_or_step_enter found here
  · split
    · next j request stage holds =>
        split
        · next same =>
            subst same
            exact .inr (step_handle holds)
        · exact .inl rfl
    · exact .inl rfl
  · exact .inl rfl

theorem step_markReady (holds : race.holder = some .opener) :
    race.Step .carryOn
      { race with intake := race.intake.markReady, holder := some .departing } := by
  by_cases closed : race.intake.closed = true
  · have same : race.intake.markReady = race.intake := if_pos closed
    rw [same]
    exact .comeLate holds closed
  · have ready : race.intake.markReady = { race.intake with ready := true } := if_neg closed
    rw [ready]
    exact .markReady holds (Bool.eq_false_iff.2 closed)

/-- Whoever has the lock goes on with this move, unless that is a producer. -/
theorem eq_or_step_carryOn (race : Race) :
    race.carryOn = race ∨ race.Step .carryOn race.carryOn := by
  unfold carryOn
  split
  · next holds => exact .inr (step_markReady holds)
  · next holds => exact .inr (.markClosed holds)
  · next holds => exact .inr (.markUnready holds)
  · next holds => exact .inr (.withdraw holds)
  · next holds =>
      split
      · next empty => exact .inr (.findNothing holds empty)
      · next i request intake found =>
          obtain ⟨chains, taken, rfl, rfl⟩ := Intake.pull?_eq_some_iff.1 found
          exact .inr (.take holds taken)
  · next i holds => exact .inr (.giveBack holds)
  · next holds => exact .inr (.depart holds)
  · exact .inl rfl
  · exact .inl rfl

/-- Somebody who wants the lock waits for it, or gets it. -/
theorem lock_eq_or (race : Race) (holder : Holder) :
    race.lock holder = race
      ∨ race.holder = none ∧ race.lock holder = { race with holder := some holder } := by
  unfold lock
  split
  · exact .inl rfl
  · next unlocked => exact .inr ⟨by simpa using unlocked, rfl⟩

/-- A move changes nothing, or it is one of the steps. -/
theorem move_eq_or_step (race : Race) (m : Move) :
    race.move m = race ∨ race.Step m (race.move m) := by
  cases m with
  | arrive request => exact .inr (.arrive request)
  | proceed k =>
      simp only [move]
      split
      · exact .inl rfl
      · next p found => exact eq_or_step_proceed found
  | markReady =>
      rcases lock_eq_or race .opener with same | ⟨unlocked, locked⟩
      · exact .inl same
      · rw [move, locked]
        exact .inr (.lockToOpen unlocked)
  | withdraw =>
      rcases lock_eq_or race .closer with same | ⟨unlocked, locked⟩
      · exact .inl same
      · rw [move, locked]
        exact .inr (.lockToClose unlocked)
  | close =>
      simp only [move]
      split
      · exact .inl rfl
      · next closing left => exact .inr (.close left)
  | acquire =>
      simp only [move]
      split
      · next pending granted =>
          obtain ⟨count, left, rfl⟩ := Semaphore.acquire_eq_granted_iff.1 granted
          exact .inr (.acquire left)
      · next refused =>
          obtain ⟨empty, closed⟩ := Semaphore.acquire_eq_refused_iff.1 refused
          exact .inr (.sendHome empty closed)
      · exact .inl rfl
  | take =>
      simp only [move]
      split
      · exact .inl rfl
      · next unit =>
          rcases lock_eq_or race .taker with same | ⟨unlocked, locked⟩
          · exact .inl same
          · rw [locked]
            exact .inr (.lockToTake unlocked (Nat.pos_of_ne_zero unit))
  | carryOn => exact eq_or_step_carryOn race
  | die =>
      simp only [move, die]
      split
      · next i holds => exact .inr (.die holds)
      · exact .inl rfl

/-! ### Runs -/

@[simp] theorem run_nil (race : Race) : race.run [] = race := rfl

@[simp] theorem run_cons (race : Race) (m : Move) (moves : List Move) :
    race.run (m :: moves) = (race.move m).run moves := rfl

theorem run_append (race : Race) (first second : List Move) :
    race.run (first ++ second) = (race.run first).run second :=
  List.foldl_append

/-- What every step preserves holds along every run. -/
theorem run_preserves {Inv : Race → Prop}
    (step : ∀ {before m after}, Inv before → before.Step m after → Inv after)
    {race : Race} (inv : Inv race) (moves : List Move) : Inv (race.run moves) := by
  induction moves generalizing race with
  | nil => exact inv
  | cons m rest ih =>
      rw [run_cons]
      rcases race.move_eq_or_step m with same | changed
      · rw [same]
        exact ih inv
      · exact ih (step inv changed)

end AttachService.Race
