/-
Module: AttachService.Proofs.Race.Answers
Purpose: Whatever others do meanwhile, a producer is answered as if it had acted in one go.
Trusted boundary: none
Main exports: Race.looks, Race.Under, Race.Answered, Race.Past, Race.known_run,
  Race.answered_run
-/
import AttachService.Proofs.Intake.Deciding
import AttachService.Proofs.Race.Drain
import AttachService.Proofs.Race.Rest
import Mathlib.Data.List.Induction

namespace AttachService

/-- How many units a producer has released on its way to this stage. -/
def Stage.units : Stage → Nat
  | .announced _ | .filled _ | .leaving (.ok _) => 1
  | .entered | .welcome | .reserved _ | .leaving (.error _) => 0

/-- What a producer with this request has made of the chains on its way to this stage, if it
found the intake so when it took the lock. -/
def Stage.Done (intake : Intake) (request : Submission) (chains : Chains) : Stage → Prop
  | .entered => chains = intake.chains
  | .welcome => intake.ready = true ∧ chains = intake.chains
  | .reserved i | .announced i =>
      intake.ready = true ∧ intake.chains.takeFree = some (i, chains)
  | .filled i =>
      intake.ready = true ∧ ∃ taken, intake.chains.takeFree = some (i, taken)
        ∧ chains = (taken.fill i request).2
  | .leaving (.error refusal) =>
      chains = intake.chains ∧ intake.accept request = (.error refusal, intake)
  | .leaving (.ok _) =>
      intake.accept request = (.ok (), { intake with
        chains := chains
        pending := { intake.pending with count := intake.pending.count + 1 } })

namespace Race

variable {settings : Settings} {race after now : Race} {m : Move} {moves : List Move} {k : Nat}
  {p : Producer} {request : Submission} {stage : Stage} {free queue : List SlotId}

/-! ### Looks -/

/-- What producer `k` sees with this move, if it looks for readiness with it. -/
def glimpse (race : Race) (k : Nat) (m : Move) : Option Bool :=
  match m, race.producers[k]? with
  | .proceed j, some ⟨_, .waiting _⟩ => if j = k then some race.intake.ready else none
  | _, _ => none

/-- What producer `k` sees at its looks for readiness, the first one first. -/
def looks (k : Nat) : Race → List Move → List Bool
  | _, [] => []
  | race, m :: rest => (race.glimpse k m).toList ++ looks k (race.move m) rest

/-- The last move adds one look, or none. -/
theorem looks_concat (k : Nat) (race : Race) (moves : List Move) (m : Move) :
    looks k race (moves ++ [m]) = looks k race moves ++ ((race.run moves).glimpse k m).toList := by
  induction moves generalizing race with
  | nil => rw [List.nil_append, looks, looks, looks, List.append_nil, List.nil_append, run_nil]
  | cons first rest ih =>
      rw [List.cons_append, looks, looks, ih, run_cons, List.append_assoc]

/-- Nobody looks but with a step of its own. -/
theorem glimpse_of_ne (race : Race) (other : m ≠ .proceed k) : race.glimpse k m = none := by
  unfold glimpse
  split
  · next j _ _ _ =>
      refine if_neg ?_
      rintro rfl
      exact other rfl
  · rfl

/-- A producer that waits sees whether the intake is ready. -/
theorem glimpse_of_waiting {sleeps : Nat} (found : race.producers[k]? = some p)
    (here : p.progress = .waiting sleeps) :
    race.glimpse k (.proceed k) = some race.intake.ready := by
  obtain ⟨request, progress⟩ := p
  cases here
  simp only [glimpse, found, if_true]

/-- A producer that does not wait does not look. -/
theorem glimpse_of_not_waiting (found : race.producers[k]? = some p)
    (elsewhere : ∀ sleeps, p.progress ≠ .waiting sleeps) (m : Move) :
    race.glimpse k m = none := by
  unfold glimpse
  split
  · next sleeps there =>
      cases found.symm.trans there
      exact absurd rfl (elsewhere sleeps)
  · rfl

/-! ### Steps of others -/

/-- What others do while a producer holds the lock: they change nothing behind the lock, and
a unit that they take is owed. -/
structure Spared (race after : Race) : Prop where
  holder : after.holder = race.holder
  intake : { after.intake with pending := race.intake.pending } = race.intake
  units : after.intake.pending.count + after.owed = race.intake.pending.count + race.owed

/-- While a producer has the lock, others change nothing that it works on. -/
theorem Step.spared (step : race.Step m after) (other : m ≠ .proceed k)
    (holds : race.holder = some (.producer k request stage)) : race.Spared after := by
  cases step with
  | arrive | sleep | pass | refuse | sendHome | close => exact ⟨rfl, rfl, rfl⟩
  | acquire left =>
      refine ⟨rfl, rfl, ?_⟩
      rw [left, Nat.add_right_comm, Nat.add_assoc]
  | welcome here | turnAway here | reserve here | overflow here | announce here | fill here
  | enlist here | leave here =>
      rw [holds] at here
      cases here
      exact absurd rfl other
  | enter _ _ here | lockToOpen here | markReady here | comeLate here | lockToClose here
  | markClosed here | markUnready here | withdraw here | lockToTake here | findNothing here
  | take here | giveBack here | depart here | die here =>
      rw [holds] at here
      cases here

/-- Only a producer itself goes on. -/
theorem Step.getElem?_producers (step : race.Step m after) (other : m ≠ .proceed k)
    (found : race.producers[k]? = some p) : after.producers[k]? = some p := by
  cases step with
  | arrive => exact getElem?_concat_of_some found
  | sleep | pass | refuse | enter | leave =>
      refine (getElem?_advance_of_ne ?_).trans found
      rintro rfl
      exact other rfl
  | _ => exact found

/-- Whoever comes has not looked yet. -/
theorem Step.newcomer (step : race.Step m after) (unknown : race.producers[k]? = none)
    (found : after.producers[k]? = some p) : p.progress = .waiting 0 := by
  cases step with
  | arrive =>
      rcases of_getElem?_concat found with there | ⟨-, rfl⟩
      · cases unknown.symm.trans there
      · rfl
  | sleep | pass | refuse | enter | leave =>
      cases (getElem?_advance_of_none unknown).symm.trans found
  | _ => cases unknown.symm.trans found

/-! ### A producer behind the lock -/

/-- The semaphore has room for whatever finds a free slot. -/
def Roomy (race : Race) : Prop :=
  ∀ {i : SlotId} {chains : Chains}, race.intake.chains.takeFree = some (i, chains) →
    race.intake.pending.count < race.intake.pending.max

/-- Who finds a free slot finds room for a unit as well. -/
theorem roomy_run (settings : Settings) (moves : List Move) :
    ((start settings).run moves).Roomy := by
  intro i chains found
  obtain ⟨free, queue, accounted⟩ := balanced_run settings moves
  obtain ⟨rest, idle, -, -⟩ := accounted.layout.of_takeFree found
  apply accounted.room
  rw [idle]
  exact List.cons_ne_nil i rest

/-- A producer found the intake as it is in `now` when it took the lock, and has come to this
stage since.  Only the chains and the units can be different now. -/
structure Under (now race : Race) (request : Submission) (stage : Stage) : Prop where
  intake : { race.intake with
    chains := now.intake.chains
    pending := now.intake.pending } = now.intake
  done : stage.Done now.intake request race.intake.chains
  units : race.intake.pending.count + race.owed
    = now.intake.pending.count + now.owed + stage.units

namespace Under

/-- What a producer has done under the lock is not touched by others. -/
theorem spared (under : now.Under race request stage) (spared : race.Spared after) :
    now.Under after request stage := by
  have intake := spared.intake
  have done := under.done
  rw [← intake] at done
  refine ⟨?_, done, spared.units.trans under.units⟩
  rw [← under.intake, ← intake]

/-- The intake does not stop being ready under the lock. -/
theorem ready_eq (under : now.Under race request stage) :
    race.intake.ready = now.intake.ready := by
  rw [← under.intake]

/-- The next step of a producer leads to the next stage. -/
theorem step (under : now.Under race request stage) (roomy : now.Roomy)
    (accounted : race.Accounted free queue) (tenure : race.Tenure)
    (holds : race.holder = some (.producer k request stage))
    (step : race.Step (.proceed k) after) (stays : after.holder ≠ none) :
    ∃ stage, after.holder = some (.producer k request stage)
      ∧ now.Under after request stage := by
  obtain ⟨p, there, inside, -⟩ := tenure.known (by rw [insider, holds])
  have intake := under.intake
  have done := under.done
  have units := under.units
  have onward := under.ready_eq
  cases step with
  | sleep found here | pass found here =>
      cases there.symm.trans found
      cases inside.symm.trans here
  | refuse found reason =>
      cases there.symm.trans found
      rcases reason.outside with here | ⟨sleeps, here⟩
      · cases inside.symm.trans here
      · cases inside.symm.trans here
  | enter _ _ unlocked => cases holds.symm.trans unlocked
  | welcome here ready =>
      cases holds.symm.trans here
      rw [onward] at ready
      exact ⟨.welcome, rfl, intake, ⟨ready, done⟩, units⟩
  | turnAway here reason =>
      cases holds.symm.trans here
      refine ⟨_, rfl, intake, ?_, ?_⟩
      · cases reason with
        | unready unready =>
            rw [onward] at unready
            exact ⟨done, Intake.accept_of_unready unready request⟩
        | exhausted empty =>
            rw [done.2] at empty
            exact ⟨done.2, Intake.accept_of_exhausted done.1 empty request⟩
      · cases reason with
        | unready => exact units
        | exhausted => exact units
  | reserve here found =>
      cases holds.symm.trans here
      rw [done.2] at found
      exact ⟨_, rfl, intake, ⟨done.1, found⟩, units⟩
  | overflow here full => exact absurd full (accounted.announce?_ne_none here)
  | announce here =>
      cases holds.symm.trans here
      refine ⟨_, rfl, intake, done, ?_⟩
      rw [Nat.add_right_comm, units]
      rfl
  | fill here =>
      cases holds.symm.trans here
      exact ⟨_, rfl, intake, ⟨done.1, _, done.2, rfl⟩, units⟩
  | enlist here =>
      cases holds.symm.trans here
      obtain ⟨ready, taken, found, filled⟩ := done
      refine ⟨_, rfl, intake, ?_, units⟩
      rw [Stage.Done, Intake.accept_of_free ready found (roomy found), ← filled]
      rfl
  | leave => exact absurd rfl stays

end Under

/-! ### What becomes of a producer -/

/-- What producer `k` sees at its looks, when it takes its next step after these moves. -/
def sees (settings : Settings) (before : List Move) (k look : Nat) : Bool :=
  ((looks k (start settings) (before ++ [.proceed k]))[look]?).getD false

/-- It has seen the intake ready, or has looked as often as the settings say. -/
def Patient (settings : Settings) (before : List Move) (k : Nat) : Prop :=
  true ∈ looks k (start settings) (before ++ [.proceed k])
    ∨ looks k (start settings) (before ++ [.proceed k])
      = List.replicate (settings.pollAttempts + 1) false

/-- Producer `k` has this answer as if it had got it in one go, with one of its steps. -/
inductive Answered (settings : Settings) (moves : List Move) (k : Nat) (request : Submission) :
    Except Refusal Unit → Prop where
  | refused {before rest : List Move} {refusal : Refusal}
      (split : moves = before ++ .proceed k :: rest) (patient : Patient settings before k)
      (outcome : ((start settings).run before).intake.submitSeeing (sees settings before k) request
        = (.error refusal, ((start settings).run before).intake)) :
      Answered settings moves k request (.error refusal)
  /-- Between the step with which it takes the lock and the one with which it gives it back,
  others can only take units, or close the semaphore. -/
  | accepted {before inside rest : List Move} {after : Intake}
      (split : moves = before ++ .proceed k :: (inside ++ .proceed k :: rest))
      (unlocked : ((start settings).run before).holder = none)
      (outcome : ((start settings).run before).intake.submitSeeing (sees settings before k) request
        = (.ok (), after))
      (effect : ((start settings).run (before ++ .proceed k :: inside)).intake
        = { after with
          pending := ((start settings).run (before ++ .proceed k :: inside)).intake.pending })
      (units : ((start settings).run (before ++ .proceed k :: inside)).intake.pending.count
          + ((start settings).run (before ++ .proceed k :: inside)).owed
        = after.pending.count + ((start settings).run before).owed) :
      Answered settings moves k request (.ok ())

/-- A move more comes after all that was there. -/
theorem concat_of_split {before rest : List Move} (split : moves = before ++ .proceed k :: rest)
    (m : Move) : moves ++ [m] = before ++ .proceed k :: (rest ++ [m]) := by
  rw [split, List.append_assoc, List.cons_append]

/-- An answer stays the same whatever comes after it. -/
theorem Answered.concat {answer : Except Refusal Unit}
    (answered : Answered settings moves k request answer) (m : Move) :
    Answered settings (moves ++ [m]) k request answer := by
  cases answered with
  | refused split patient outcome => exact .refused (concat_of_split split m) patient outcome
  | accepted split unlocked outcome effect units =>
      have longer := concat_of_split split m
      rw [concat_of_split rfl m] at longer
      exact .accepted longer unlocked outcome effect units

/-- What is known of a producer from how far it has come. -/
inductive Past (settings : Settings) (moves : List Move) (k : Nat) (request : Submission) :
    Progress → Prop where
  | waiting {sleeps : Nat} (seen : looks k (start settings) moves = List.replicate sleeps false)
      (patient : sleeps ≤ settings.pollAttempts) : Past settings moves k request (.waiting sleeps)
  | checked {sleeps : Nat}
      (seen : looks k (start settings) moves = List.replicate sleeps false ++ [true])
      (patient : sleeps ≤ settings.pollAttempts)
      (acceptable : request.Acceptable settings.channelPrefix) :
      Past settings moves k request .checked
  | inside {before rest : List Move} {stage : Stage} {sleeps : Nat}
      (split : moves = before ++ .proceed k :: rest)
      (unlocked : ((start settings).run before).holder = none)
      (sane : ((start settings).run before).intake.poisoned = false)
      (seen : looks k (start settings) (before ++ [.proceed k])
        = List.replicate sleeps false ++ [true])
      (patient : sleeps ≤ settings.pollAttempts)
      (acceptable : request.Acceptable settings.channelPrefix)
      (holds : ((start settings).run moves).holder = some (.producer k request stage))
      (under : ((start settings).run before).Under ((start settings).run moves) request stage) :
      Past settings moves k request .inside
  | answered {answer : Except Refusal Unit} (answered : Answered settings moves k request answer) :
      Past settings moves k request (.answered answer)

namespace Past

/-- Nothing becomes of a producer with a move of somebody else. -/
theorem concat {progress : Progress} (past : Past settings moves k request progress)
    (unseen : ((start settings).run moves).glimpse k m = none)
    (spared : ∀ {stage : Stage},
      ((start settings).run moves).holder = some (.producer k request stage) →
        ((start settings).run moves).Spared ((start settings).run (moves ++ [m]))) :
    Past settings (moves ++ [m]) k request progress := by
  have same : looks k (start settings) (moves ++ [m]) = looks k (start settings) moves := by
    rw [looks_concat, unseen, Option.toList_none, List.append_nil]
  cases past with
  | waiting seen patient => exact .waiting (same.trans seen) patient
  | checked seen patient acceptable => exact .checked (same.trans seen) patient acceptable
  | inside split unlocked sane seen patient acceptable holds under =>
      have spared := spared holds
      exact .inside (concat_of_split split m) unlocked sane seen patient acceptable
        (spared.holder.trans holds) (under.spared spared)
  | answered answered => exact .answered (answered.concat m)

end Past

/-! ### What is decided with a step -/

/-- Who has seen the intake ready has looked often enough. -/
theorem patient_of_seen {before : List Move} {sleeps : Nat}
    (seen : looks k (start settings) (before ++ [.proceed k])
      = List.replicate sleeps false ++ [true]) : Patient settings before k := by
  left
  rw [seen]
  exact List.mem_append_right _ List.mem_cons_self

/-- The intake was seen ready at the last one of these looks. -/
theorem awaitReady_of_seen {before : List Move} {sleeps : Nat}
    (seen : looks k (start settings) (before ++ [.proceed k])
      = List.replicate sleeps false ++ [true]) (patient : sleeps ≤ settings.pollAttempts) :
    Intake.awaitReady (sees settings before k) settings.pollAttempts = true := by
  refine Intake.awaitReady_eq_true_iff.2 ⟨sleeps, patient, ?_⟩
  rw [sees, seen]
  simp

/-- Who has not seen it ready would not have either if it had looked in one go. -/
theorem awaitReady_of_unseen {before : List Move} {count : Nat}
    (unseen : looks k (start settings) (before ++ [.proceed k]) = List.replicate count false) :
    Intake.awaitReady (sees settings before k) settings.pollAttempts = false := by
  rw [← Bool.not_eq_true, Intake.awaitReady_eq_true_iff]
  rintro ⟨look, -, ready⟩
  rw [sees, unseen, List.getElem?_replicate] at ready
  split at ready <;> cases ready

/-- A producer that was welcome, and comes with a request that is in order, has what it does
behind the lock before it. -/
theorem submitSeeing_of_seen {before : List Move} {sleeps : Nat}
    (seen : looks k (start settings) (before ++ [.proceed k])
      = List.replicate sleeps false ++ [true]) (patient : sleeps ≤ settings.pollAttempts)
    (acceptable : request.Acceptable settings.channelPrefix) :
    ((start settings).run before).intake.submitSeeing (sees settings before k) request
      = if ((start settings).run before).intake.poisoned then
          (.error .broken, ((start settings).run before).intake)
        else ((start settings).run before).intake.accept request := by
  have same := settings_run settings before
  rw [Intake.submitSeeing, Intake.handIn, same, awaitReady_of_seen seen patient, if_pos rfl,
    if_neg (not_not_intro acceptable)]

/-- A refusal is one that it would have got in one go. -/
theorem answered_of_refuses {refusal : Refusal}
    (found : ((start settings).run moves).producers[k]? = some p)
    (past : Past settings moves k p.request p.progress)
    (reason : ((start settings).run moves).Refuses p refusal) :
    Answered settings (moves ++ [.proceed k]) k p.request (.error refusal) := by
  have same := settings_run settings moves
  have looked := looks_concat k (start settings) moves (.proceed k)
  cases reason with
  | unseen here unready =>
      rw [here] at past
      rw [glimpse_of_waiting found here, unready] at looked
      cases past with
      | waiting seen patient =>
          rw [seen, same] at looked
          have all := looked.trans (List.replicate_succ' (n := settings.pollAttempts)).symm
          refine .refused rfl (.inr all) ?_
          rw [Intake.submitSeeing, same, awaitReady_of_unseen all]
          rfl
  | unacceptable here ready flawed =>
      rw [here] at past
      rw [glimpse_of_waiting found here, ready] at looked
      cases past with
      | waiting seen patient =>
          rw [seen] at looked
          refine .refused rfl (patient_of_seen looked) ?_
          rw [Intake.submitSeeing, Intake.handIn, if_pos flawed, same,
            awaitReady_of_seen looked patient]
          rfl
  | poisoned here unlocked poisoned =>
      rw [glimpse_of_not_waiting found (by simp [here])] at looked
      rw [here] at past
      cases past with
      | checked seen patient acceptable =>
          rw [seen, Option.toList_none, List.append_nil] at looked
          refine .refused rfl (patient_of_seen looked) ?_
          rw [submitSeeing_of_seen looked patient acceptable, if_pos poisoned]

/-- Whoever leaves has done what `Intake.accept` does to the intake that it entered. -/
theorem answered_of_leaving {before rest : List Move} {sleeps : Nat}
    {answer : Except Refusal Unit} (split : moves = before ++ .proceed k :: rest)
    (unlocked : ((start settings).run before).holder = none)
    (sane : ((start settings).run before).intake.poisoned = false)
    (seen : looks k (start settings) (before ++ [.proceed k])
      = List.replicate sleeps false ++ [true]) (patient : sleeps ≤ settings.pollAttempts)
    (acceptable : request.Acceptable settings.channelPrefix)
    (under : ((start settings).run before).Under ((start settings).run moves) request
      (.leaving answer)) :
    Answered settings (moves ++ [.proceed k]) k request answer := by
  have outcome := submitSeeing_of_seen seen patient acceptable
  have done := under.done
  have longer := concat_of_split split (.proceed k)
  have unpoisoned : ¬ ((start settings).run before).intake.poisoned = true := by simp [sane]
  rw [if_neg unpoisoned] at outcome
  cases answer with
  | error refusal => exact .refused longer (patient_of_seen seen) (outcome.trans done.2)
  | ok =>
      rw [Stage.Done] at done
      rw [done] at outcome
      refine .accepted longer unlocked outcome ?_ ?_
      · rw [← split, ← under.intake]
      · rw [← split, under.units, Nat.add_right_comm]
        rfl

/-- With each of its steps, a producer comes to where its past says. -/
theorem past_of_proceed (found : ((start settings).run moves).producers[k]? = some p)
    (past : Past settings moves k p.request p.progress)
    (step : ((start settings).run moves).Step (.proceed k) after)
    (ends : (start settings).run (moves ++ [.proceed k]) = after) :
    ∃ q, after.producers[k]? = some q
      ∧ Past settings (moves ++ [.proceed k]) k q.request q.progress := by
  have looked := looks_concat k (start settings) moves (.proceed k)
  have same := settings_run settings moves
  obtain ⟨free, queue, accounted⟩ := balanced_run settings moves
  have tenure := tenure_run settings moves
  have walked := step
  cases walked with
  | sleep there here unready patient =>
      cases found.symm.trans there
      rw [glimpse_of_waiting found here, unready] at looked
      rw [here] at past
      cases past with
      | waiting seen bound =>
          refine ⟨_, getElem?_advance_self found, .waiting ?_ ?_⟩
          · rw [looked, seen]
            exact List.replicate_succ'.symm
          · rw [same] at patient
            exact Nat.lt_of_le_of_ne bound patient
  | pass there here ready acceptable =>
      cases found.symm.trans there
      rw [glimpse_of_waiting found here, ready] at looked
      rw [here] at past
      rw [same] at acceptable
      cases past with
      | waiting seen bound =>
          refine ⟨_, getElem?_advance_self found, .checked ?_ bound acceptable⟩
          rw [looked, seen]
          rfl
  | refuse there reason =>
      cases found.symm.trans there
      have answered := answered_of_refuses found past reason
      exact ⟨_, getElem?_advance_self found, .answered answered⟩
  | enter there here unlocked sane =>
      cases found.symm.trans there
      rw [glimpse_of_not_waiting found (by simp [here])] at looked
      rw [here] at past
      cases past with
      | checked seen patient acceptable =>
          rw [seen, Option.toList_none, List.append_nil] at looked
          have holds : ((start settings).run (moves ++ [.proceed k])).holder
              = some (.producer k p.request .entered) := by
            rw [ends]
          have under : ((start settings).run moves).Under
              ((start settings).run (moves ++ [.proceed k])) p.request .entered := by
            rw [ends]
            exact ⟨rfl, rfl, rfl⟩
          exact ⟨_, getElem?_advance_self found,
            .inside rfl unlocked sane looked patient acceptable holds under⟩
  | leave holds =>
      obtain ⟨q, there, inside, rfl⟩ := tenure.known (by rw [insider, holds])
      cases found.symm.trans there
      rw [inside] at past
      cases past with
      | inside split unlocked sane seen patient acceptable held under =>
          cases holds.symm.trans held
          have answered := answered_of_leaving split unlocked sane seen patient acceptable under
          exact ⟨_, getElem?_advance_self found, .answered answered⟩
  | welcome holds | turnAway holds | reserve holds | overflow holds | announce holds | fill holds
  | enlist holds =>
      obtain ⟨q, there, inside, rfl⟩ := tenure.known (by rw [insider, holds])
      cases found.symm.trans there
      refine ⟨p, found, ?_⟩
      rw [inside] at past ⊢
      cases past with
      | inside split unlocked sane seen patient acceptable held under =>
          obtain ⟨stage, holds, under⟩ :=
            under.step (roomy_run settings _) accounted tenure held step (by simp)
          rw [← ends] at holds under
          exact .inside (concat_of_split split _) unlocked sane seen patient acceptable holds under

/-- A producer that can take no step sees nothing. -/
theorem unseen_or_step_of_proceed (found : race.producers[k]? = some p) :
    race.glimpse k (.proceed k) = none ∧ race.move (.proceed k) = race
      ∨ race.Step (.proceed k) (race.move (.proceed k)) := by
  have moves : race.move (.proceed k) = race.proceed k p := by
    rw [move, found]
  cases here : p.progress with
  | waiting sleeps =>
      rw [moves, proceed, here]
      exact .inr (step_look found here)
  | checked | inside | answered =>
      rcases race.move_eq_or_step (.proceed k) with same | step
      · exact .inl ⟨glimpse_of_not_waiting found (by simp [here]) _, same⟩
      · exact .inr step

/-- What is known of somebody with number `k`, if there is anybody. -/
structure Known (settings : Settings) (moves : List Move) (k : Nat) : Prop where
  absent : ((start settings).run moves).producers[k]? = none → looks k (start settings) moves = []
  past : ∀ {p : Producer}, ((start settings).run moves).producers[k]? = some p →
    Past settings moves k p.request p.progress

namespace Known

/-- A move that changes nothing, and shows nothing. -/
theorem of_same (known : Known settings moves k)
    (unseen : ((start settings).run moves).glimpse k m = none)
    (same : (start settings).run (moves ++ [m]) = (start settings).run moves) :
    Known settings (moves ++ [m]) k where
  absent unknown := by
    rw [same] at unknown
    rw [looks_concat, unseen, known.absent unknown]
    rfl
  past found := by
    rw [same] at found
    refine (known.past found).concat unseen ?_
    intro stage _
    rw [same]
    exact ⟨rfl, rfl, rfl⟩

/-- A move of somebody else. -/
theorem of_other (known : Known settings moves k) (other : m ≠ .proceed k)
    (step : ((start settings).run moves).Step m ((start settings).run (moves ++ [m]))) :
    Known settings (moves ++ [m]) k := by
  have unseen := ((start settings).run moves).glimpse_of_ne other
  have looked : looks k (start settings) (moves ++ [m]) = looks k (start settings) moves := by
    rw [looks_concat, unseen, Option.toList_none, List.append_nil]
  cases before : ((start settings).run moves).producers[k]? with
  | none =>
      refine ⟨fun _ => looked.trans (known.absent before), ?_⟩
      intro p found
      rw [step.newcomer before found]
      exact .waiting (looked.trans (known.absent before)) (Nat.zero_le _)
  | some q =>
      have after := step.getElem?_producers other before
      constructor
      · intro unknown
        cases unknown.symm.trans after
      · intro p found
        cases found.symm.trans after
        exact (known.past before).concat unseen fun holds => step.spared other holds

/-- What is known of a producer is known after any other move. -/
theorem concat (known : Known settings moves k) (m : Move) :
    Known settings (moves ++ [m]) k := by
  have ends : (start settings).run (moves ++ [m]) = ((start settings).run moves).move m := by
    rw [run_append, run_cons, run_nil]
  by_cases own : m = .proceed k
  · subst own
    cases before : ((start settings).run moves).producers[k]? with
    | none =>
        refine known.of_same ?_ ?_
        · simp [glimpse, before]
        · rw [ends, move, before]
    | some q =>
        rcases unseen_or_step_of_proceed before with ⟨unseen, same⟩ | step
        · exact known.of_same unseen (ends.trans same)
        · obtain ⟨p, after, past⟩ := past_of_proceed before (known.past before) step ends
          rw [← ends] at after
          constructor
          · intro unknown
            cases unknown.symm.trans after
          · intro r found
            cases found.symm.trans after
            exact past
  · rcases ((start settings).run moves).move_eq_or_step m with same | step
    · exact known.of_same (glimpse_of_ne _ own) (ends.trans same)
    · rw [← ends] at step
      exact known.of_other own step

end Known

/-- What is known of a producer is known at every moment. -/
theorem known_run (settings : Settings) (moves : List Move) (k : Nat) :
    Known settings moves k := by
  induction moves using List.reverseRecOn with
  | nil =>
      refine ⟨fun _ => rfl, ?_⟩
      intro p found
      cases found
  | append_singleton moves m ih => exact ih.concat m

/-- Every answer is one that the producer could have got in one go. -/
theorem answered_run (settings : Settings) (moves : List Move) {answer : Except Refusal Unit}
    (found : ((start settings).run moves).producers[k]? = some p)
    (told : p.progress = .answered answer) : Answered settings moves k p.request answer := by
  have past := (known_run settings moves k).past found
  rw [told] at past
  cases past with
  | answered answered => exact answered

end Race

end AttachService
