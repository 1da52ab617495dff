/-
Module: AttachService.Proofs.Race.Crowd
Purpose: When producers crowd at a ready intake, as many are accepted as there are free slots.
Trusted boundary: none
Main exports: Move.peaceful, Race.Calm, Race.Crowded, Race.Crowded.run,
  Race.Crowded.exists_settled, Race.Crowd, Race.Decisive, Race.submitting_decides
-/
import AttachService.Proofs.Race.Answers

namespace AttachService

/-- Nobody takes a request with this move, and nobody shuts down. -/
def Move.peaceful : Move → Bool
  | .arrive _ | .proceed _ | .markReady | .carryOn => true
  | .withdraw | .close | .acquire | .take | .die => false

/-- Who can hold the lock while nobody takes requests and nobody shuts down. -/
def Holder.peaceful : Holder → Bool
  | .producer .. | .opener | .departing => true
  | .closer | .withdrawer | .withdrawn | .taker | .bearer _ => false

/-- The producer has this answer. -/
def Producer.told (answer : Except Refusal Unit) (p : Producer) : Bool :=
  match p.progress with
  | .answered given => given = answer
  | _ => false

theorem Producer.told_iff {answer : Except Refusal Unit} {p : Producer} :
    p.told answer = true ↔ p.progress = .answered answer := by
  obtain ⟨request, progress⟩ := p
  cases progress with
  | answered given => simp [told]
  | waiting | checked | inside => simp [told]

namespace Race

variable {first race after : Race} {m : Move} {k : Nat} {p : Producer} {progress : Progress}
  {request : Submission} {intake : Intake} {free queue : List SlotId}

/-- Everybody who has come has been answered. -/
def Settled (race : Race) : Prop :=
  ∀ {k : Nat} {p : Producer}, race.producers[k]? = some p → ∃ answer, p.progress = .answered answer

/-- A producer that holds the lock has no answer yet. -/
theorem Settled.nobody_inside (settled : race.Settled) (tenure : race.Tenure) {stage : Stage} :
    race.holder ≠ some (.producer k request stage) := by
  intro holds
  obtain ⟨p, found, inside, -⟩ := tenure.known (by rw [insider, holds])
  obtain ⟨answer, told⟩ := settled found
  cases inside.symm.trans told

/-- The intake is ready and usable, and nobody is busy at it. -/
structure Calm (race : Race) : Prop where
  unlocked : race.holder = none
  ready : race.intake.ready = true
  sane : race.intake.poisoned = false
  settled : race.Settled

/-- How far a producer can have come at an intake that is ready all the time and from which
nothing is taken. -/
inductive Fated (intake : Intake) (request : Submission) : Progress → Prop where
  | waiting : Fated intake request (.waiting 0)
  | checked (acceptable : request.Acceptable intake.settings.channelPrefix) :
      Fated intake request .checked
  | inside (acceptable : request.Acceptable intake.settings.channelPrefix) :
      Fated intake request .inside
  | accepted (acceptable : request.Acceptable intake.settings.channelPrefix) :
      Fated intake request (.answered (.ok ()))
  | illegal (flawed : ¬ request.Acceptable intake.settings.channelPrefix) :
      Fated intake request (.answered (.error .illegal))
  | exhausted (acceptable : request.Acceptable intake.settings.channelPrefix)
      (empty : intake.chains.freeChain = []) : Fated intake request (.answered (.error .exhausted))

/-- Who has been refused for want of a slot is so still when there are fewer. -/
theorem Fated.congr {later : Intake} (fated : Fated intake request progress)
    (settings : later.settings = intake.settings)
    (onward : intake.chains.freeChain = [] → later.chains.freeChain = []) :
    Fated later request progress := by
  cases fated with
  | waiting => exact .waiting
  | checked acceptable => exact .checked (by rwa [settings])
  | inside acceptable => exact .inside (by rwa [settings])
  | accepted acceptable => exact .accepted (by rwa [settings])
  | illegal flawed => exact .illegal (by rwa [settings])
  | exhausted acceptable empty => exact .exhausted (by rwa [settings]) (onward empty)

/-- What is known as long as producers only crowd, since the race was as in `first`. -/
structure Crowded (first race : Race) : Prop where
  settings : race.intake.settings = first.intake.settings
  ready : race.intake.ready = true
  sane : race.intake.poisoned = false
  lost : race.lost = first.lost
  peaceful : ∀ {holder : Holder}, race.holder = some holder → holder.peaceful = true
  leaving : ∀ {k : Nat} {request : Submission} {refusal : Refusal},
    race.holder = some (.producer k request (.leaving (.error refusal))) →
      refusal = .exhausted ∧ race.intake.chains.freeChain = []
  /-- A slot that has left the pool is in the hands of a producer, or was queued. -/
  slots : race.intake.freeCount + race.hands.length + race.accepted.length
    = first.intake.freeCount + first.accepted.length
  earlier : ∀ {k : Nat} {p : Producer}, first.producers[k]? = some p →
    race.producers[k]? = some p
  fates : ∀ {k : Nat} {p : Producer}, race.producers[k]? = some p →
    first.producers.length ≤ k → Fated race.intake p.request p.progress

namespace Crowded

/-- A calm intake is a crowd of nobody. -/
theorem start (calm : first.Calm) : first.Crowded first where
  settings := rfl
  ready := calm.ready
  sane := calm.sane
  lost := rfl
  peaceful holds := by cases calm.unlocked.symm.trans holds
  leaving holds := by cases calm.unlocked.symm.trans holds
  slots := by rw [hands_of_unlocked calm.unlocked, List.length_nil, Nat.add_zero]
  earlier found := found
  fates found beyond := by
    rw [List.getElem?_eq_none beyond] at found
    cases found

/-- A step that changes who holds the lock, and nothing that producers can see. -/
theorem congr (crowded : first.Crowded race) (producers : after.producers = race.producers)
    (accepted : after.accepted = race.accepted) (lost : after.lost = race.lost)
    (settings : after.intake.settings = race.intake.settings)
    (ready : after.intake.ready = true) (sane : after.intake.poisoned = race.intake.poisoned)
    (free : after.intake.chains.freeChain = race.intake.chains.freeChain)
    (hands : after.hands = race.hands)
    (peaceful : ∀ {holder : Holder}, after.holder = some holder → holder.peaceful = true)
    (leaving : ∀ {k : Nat} {request : Submission} {refusal : Refusal},
      after.holder = some (.producer k request (.leaving (.error refusal))) →
        refusal = .exhausted ∧ race.intake.chains.freeChain = []) : first.Crowded after where
  settings := settings.trans crowded.settings
  ready := ready
  sane := sane.trans crowded.sane
  lost := lost.trans crowded.lost
  peaceful := peaceful
  leaving holds := by
    rw [free]
    exact leaving holds
  slots := by
    rw [Intake.freeCount, free, hands, accepted]
    exact crowded.slots
  earlier found := by
    rw [producers]
    exact crowded.earlier found
  fates found beyond := by
    rw [producers] at found
    exact (crowded.fates found beyond).congr settings fun empty => by rw [free, empty]

/-- A producer that has no answer yet goes on. -/
theorem advance (crowded : first.Crowded race) (settled : first.Settled)
    (found : race.producers[k]? = some p) (unanswered : ∀ answer, p.progress ≠ .answered answer)
    (fated : Fated race.intake p.request progress) : first.Crowded (race.advance k progress) where
  settings := crowded.settings
  ready := crowded.ready
  sane := crowded.sane
  lost := crowded.lost
  peaceful := crowded.peaceful
  leaving := crowded.leaving
  slots := crowded.slots
  earlier {j q} there := by
    obtain ⟨answer, told⟩ := settled there
    refine getElem?_advance_of_progress_ne found (crowded.earlier there) ?_
    rw [told]
    exact unanswered answer
  fates here beyond := by
    rcases of_getElem?_advance found here with ⟨-, rfl⟩ | ⟨-, stays⟩
    · exact fated
    · exact crowded.fates stays beyond

/-- Whoever has no answer yet has come since. -/
theorem length_le (crowded : first.Crowded race) (settled : first.Settled)
    (found : race.producers[k]? = some p)
    (unanswered : ∀ answer, p.progress ≠ .answered answer) : first.producers.length ≤ k := by
  by_contra early
  have there := List.getElem?_eq_getElem (Nat.lt_of_not_le early)
  obtain ⟨answer, told⟩ := settled there
  cases found.symm.trans (crowded.earlier there)
  exact unanswered answer told

/-- Another producer joins the crowd. -/
theorem arrive (crowded : first.Crowded race) (fresh : Submission) :
    first.Crowded { race with producers := race.producers ++ [{ request := fresh }] } where
  settings := crowded.settings
  ready := crowded.ready
  sane := crowded.sane
  lost := crowded.lost
  peaceful := crowded.peaceful
  leaving := crowded.leaving
  slots := crowded.slots
  earlier found := getElem?_concat_of_some (crowded.earlier found)
  fates here beyond := by
    rcases of_getElem?_concat here with there | ⟨-, rfl⟩
    · exact crowded.fates there beyond
    · exact .waiting

/-- One of the crowd takes the lock. -/
theorem enter (crowded : first.Crowded race) (settled : first.Settled)
    (found : race.producers[k]? = some p) (here : p.progress = .checked)
    (unlocked : race.holder = none) :
    first.Crowded { race.advance k .inside with
      holder := some (.producer k p.request .entered)
      entered := race.entered ++ [k] } := by
  have beyond := crowded.length_le settled found (by simp [here])
  have fated := crowded.fates found beyond
  rw [here] at fated
  cases fated with
  | checked acceptable =>
      have inside : first.Crowded (race.advance k .inside) :=
        crowded.advance settled found (by simp [here]) (.inside acceptable)
      refine inside.congr rfl rfl rfl rfl inside.ready rfl rfl ?_ ?_ (by simp)
      · simp [hands, Race.advance, unlocked, Holder.hands]
      · rintro _ ⟨⟩
        rfl

/-- One of the crowd gives the lock back, and has its answer. -/
theorem leave (crowded : first.Crowded race) (settled : first.Settled) (tenure : race.Tenure)
    {answer : Except Refusal Unit}
    (holds : race.holder = some (.producer k request (.leaving answer))) :
    first.Crowded { race.advance k (.answered answer) with holder := none } := by
  obtain ⟨p, found, here, rfl⟩ := tenure.known (by rw [insider, holds])
  have beyond := crowded.length_le settled found (by simp [here])
  have fated := crowded.fates found beyond
  rw [here] at fated
  cases fated with
  | inside acceptable =>
      have told : Fated race.intake p.request (.answered answer) := by
        cases answer with
        | ok => exact .accepted acceptable
        | error refusal =>
            obtain ⟨rfl, empty⟩ := crowded.leaving holds
            exact .exhausted acceptable empty
      have gone : first.Crowded (race.advance k (.answered answer)) :=
        crowded.advance settled found (by simp [here]) told
      refine gone.congr rfl rfl rfl rfl gone.ready rfl rfl ?_ (by simp) (by simp)
      simp [hands, Race.advance, holds, Holder.hands]

/-- A slot leaves the pool. -/
theorem reserve (crowded : first.Crowded race) (accounted : race.Accounted free queue)
    {i : SlotId} {chains : Chains} (holds : race.holder = some (.producer k request .welcome))
    (found : race.intake.chains.takeFree = some (i, chains)) :
    first.Crowded { race with
      intake := { race.intake with chains := chains }
      holder := some (.producer k request (.reserved i)) } := by
  obtain ⟨rest, rfl, reserved, -⟩ := accounted.layout.of_takeFree found
  have slots := crowded.slots
  have before := accounted.layout.freeChain_eq
  rw [Intake.freeCount, before, hands, holds] at slots
  refine ⟨crowded.settings, crowded.ready, crowded.sane, crowded.lost, ?_, by simp, ?_,
    crowded.earlier, ?_⟩
  · rintro _ ⟨⟩
    rfl
  · rw [Intake.freeCount, reserved.freeChain_eq, ← slots]
    rfl
  · intro j q there beyond
    refine (crowded.fates there beyond).congr rfl ?_
    rw [before]
    exact fun empty => absurd empty (List.cons_ne_nil i rest)

/-- A slot with a request in it enters the queue. -/
theorem enlist (crowded : first.Crowded race) (accounted : race.Accounted free queue) {i : SlotId}
    (holds : race.holder = some (.producer k request (.filled i))) :
    first.Crowded { race with
      intake := race.intake.enlist i
      holder := some (.producer k request (.leaving (.ok ())))
      accepted := race.accepted ++ [(k, request)] } := by
  have layout := accounted.layout
  have slots := crowded.slots
  have before := layout.freeChain_eq
  rw [hands, holds] at layout slots
  have queued := (Intake.layout_enlist layout).freeChain_eq
  refine ⟨crowded.settings, crowded.ready, crowded.sane, crowded.lost, ?_, by simp, ?_,
    crowded.earlier, ?_⟩
  · rintro _ ⟨⟩
    rfl
  · rw [Intake.freeCount, queued, ← before, ← slots]
    simp only [hands, Option.elim_some, Holder.hands, List.length_cons, List.length_nil,
      List.length_append, Intake.freeCount]
    omega
  · intro j q there beyond
    refine (crowded.fates there beyond).congr rfl ?_
    rw [before, queued]
    exact id

/-- Whatever a crowd does, what is known of it stays so. -/
theorem step (crowded : first.Crowded race) (settled : first.Settled)
    (accounted : race.Accounted free queue) (tenure : race.Tenure) (peace : m.peaceful = true)
    (step : race.Step m after) : first.Crowded after := by
  have layout := accounted.layout
  cases step with
  | arrive fresh => exact crowded.arrive fresh
  | sleep _ _ unready => cases crowded.ready.symm.trans unready
  | pass found here _ acceptable =>
      exact crowded.advance settled found (by simp [here]) (.checked acceptable)
  | refuse found reason =>
      cases reason with
      | unseen _ unready => cases crowded.ready.symm.trans unready
      | unacceptable here _ flawed =>
          exact crowded.advance settled found (by simp [here]) (.illegal flawed)
      | poisoned _ _ poisoned => cases crowded.sane.symm.trans poisoned
  | enter found here unlocked => exact crowded.enter settled found here unlocked
  | leave holds => exact crowded.leave settled tenure holds
  | reserve holds found => exact crowded.reserve accounted holds found
  | overflow holds full => exact absurd full (accounted.announce?_ne_none holds)
  | enlist holds => exact crowded.enlist accounted holds
  | turnAway holds reason =>
      cases reason with
      | unready unready => cases crowded.ready.symm.trans unready
      | exhausted empty =>
          refine crowded.congr rfl rfl rfl rfl crowded.ready rfl rfl ?_ ?_ ?_
          · simp [hands, holds, Holder.hands]
          · rintro _ ⟨⟩
            rfl
          · rintro _ _ _ ⟨⟩
            exact ⟨rfl, layout.freeChain_eq.trans (layout.eq_nil_of_takeFree empty)⟩
  | @fill k request i holds =>
      have filled := layout.fill i request
      refine crowded.congr rfl rfl rfl rfl crowded.ready rfl ?_ ?_ ?_ (by simp)
      · exact filled.freeChain_eq.trans layout.freeChain_eq.symm
      · simp [hands, holds, Holder.hands]
      · rintro _ ⟨⟩
        rfl
  | markReady holds =>
      refine crowded.congr rfl rfl rfl rfl rfl rfl rfl ?_ ?_ (by simp)
      · simp [hands, holds, Holder.hands]
      · rintro _ ⟨⟩
        rfl
  | welcome holds | announce holds | lockToOpen holds | comeLate holds | depart holds =>
      refine crowded.congr rfl rfl rfl rfl crowded.ready rfl rfl ?_ ?_ (by simp)
      · simp [hands, holds, Holder.hands]
      · rintro _ ⟨⟩
        all_goals rfl
  | lockToClose | close | acquire | sendHome | lockToTake | die => cases peace
  | markClosed holds | markUnready holds | withdraw holds | findNothing holds | take holds
  | giveBack holds => cases crowded.peaceful holds

end Crowded

/-- Producers go on crowding as long as everybody else leaves the intake alone. -/
theorem Crowded.run (crowded : first.Crowded race) (settled : first.Settled)
    (balanced : race.Balanced) (tenure : race.Tenure) {later : List Move}
    (peace : ∀ m ∈ later, m.peaceful = true) : first.Crowded (race.run later) := by
  induction later generalizing race with
  | nil => exact crowded
  | cons m rest ih =>
      rw [run_cons]
      have onward : ∀ m ∈ rest, m.peaceful = true := fun n member =>
        peace n (List.mem_cons_of_mem m member)
      rcases race.move_eq_or_step m with same | step
      · rw [same]
        exact ih crowded balanced tenure onward
      · obtain ⟨free, queue, accounted⟩ := balanced
        have next := crowded.step settled accounted tenure (peace m List.mem_cons_self) step
        exact ih next (accounted.step step) (tenure.step step) onward

/-! ### Counting answers -/

/-- The accepted requests are as many as the producers that were told so, and the one that is
about to be told. -/
theorem countP_told_ok (truthful : race.Truthful) (lined : race.Lined)
    (nobody : ∀ k request, race.holder ≠ some (.producer k request (.leaving (.ok ())))) :
    race.producers.countP (Producer.told (.ok ())) = race.accepted.length := by
  have distinct : (race.accepted.map (·.1)).Nodup := lined.order.nodup lined.once
  let numbers := (race.producers.zipIdx.filter fun q => q.1.told (.ok ())).map (·.2)
  have once : numbers.Nodup := by
    refine List.Nodup.sublist ((List.filter_sublist).map _) ?_
    rw [List.zipIdx_map_snd]
    exact List.nodup_range' 1
  have same : (race.accepted.map (·.1)).Perm numbers := by
    refine (List.perm_ext_iff_of_nodup distinct once).2 fun k => ?_
    rw [List.mem_map, List.mem_map]
    constructor
    · rintro ⟨⟨k, request⟩, member, rfl⟩
      rcases (truthful k request).1 member with ⟨p, found, -, told⟩ | leaving
      · refine ⟨(p, k), List.mem_filter.2 ⟨?_, Producer.told_iff.2 told⟩, rfl⟩
        exact List.mem_zipIdx_iff_getElem?.2 found
      · exact absurd leaving (nobody k request)
    · rintro ⟨⟨p, k⟩, member, rfl⟩
      obtain ⟨member, told⟩ := List.mem_filter.1 member
      have found := List.mem_zipIdx_iff_getElem?.1 member
      refine ⟨(k, p.request), (truthful k p.request).2 (.inl ⟨p, found, rfl, ?_⟩), rfl⟩
      exact Producer.told_iff.1 told
  have count := same.length_eq
  rw [List.length_map, List.length_map, ← List.countP_eq_length_filter] at count
  have indexed := List.countP_map (p := Producer.told (.ok ())) (f := Prod.fst)
    (l := race.producers.zipIdx)
  rw [List.zipIdx_map_fst] at indexed
  exact indexed.trans count.symm

/-- The producers that have come since the race was as in `first`. -/
def newcomers (first later : Race) : List Producer :=
  later.producers.drop first.producers.length

/-- How many of them come with a request that is in order. -/
def worthy (first later : Race) : Nat :=
  (first.newcomers later).countP fun p =>
    p.request.Acceptable first.intake.settings.channelPrefix

/-- Whoever comes with a request that is in order is accepted or finds no slot, and nobody else
is. -/
theorem countP_of_fated {producers : List Producer}
    (fates : ∀ p ∈ producers, Fated intake p.request p.progress)
    (answered : ∀ p ∈ producers, ∃ answer, p.progress = .answered answer) :
    producers.countP (fun p => p.request.Acceptable intake.settings.channelPrefix)
        = producers.countP (Producer.told (.ok ()))
          + producers.countP (Producer.told (.error .exhausted))
      ∧ producers.length
        = producers.countP (fun p => p.request.Acceptable intake.settings.channelPrefix)
          + producers.countP (Producer.told (.error .illegal)) := by
  induction producers with
  | nil => exact ⟨rfl, rfl⟩
  | cons p rest ih =>
      obtain ⟨first, second⟩ := ih (fun q member => fates q (List.mem_cons_of_mem p member))
        (fun q member => answered q (List.mem_cons_of_mem p member))
      have fated := fates p List.mem_cons_self
      obtain ⟨answer, told⟩ := answered p List.mem_cons_self
      rw [told] at fated
      cases fated with
      | accepted acceptable =>
          simp only [acceptable, decide_true, List.countP_cons_of_pos, Producer.told, told,
            reduceCtorEq, decide_false, Bool.false_eq_true, not_false_eq_true,
            List.countP_cons_of_neg, List.length_cons]
          omega
      | illegal flawed =>
          simp only [flawed, decide_false, Bool.false_eq_true, not_false_eq_true,
            List.countP_cons_of_neg, Producer.told, told, reduceCtorEq, Except.error.injEq,
            List.length_cons, decide_true, List.countP_cons_of_pos]
          omega
      | exhausted acceptable empty =>
          simp only [acceptable, decide_true, List.countP_cons_of_pos, Producer.told, told,
            reduceCtorEq, decide_false, Bool.false_eq_true, not_false_eq_true,
            List.countP_cons_of_neg, List.length_cons, Except.error.injEq]
          omega

/-! ### Everybody gets an answer -/

theorem length_producers_proceed (race : Race) (k : Nat) :
    (race.move (.proceed k)).producers.length = race.producers.length := by
  rcases race.move_eq_or_step (.proceed k) with same | step
  · rw [same]
  · generalize race.move (.proceed k) = after at step
    cases step with
    | sleep | pass | refuse | enter | leave => exact List.length_modify _ _ _
    | _ => rfl

/-- Nobody comes while a producer is let. -/
theorem length_producers_press (race : Race) (k n : Nat) :
    (race.press k n).producers.length = race.producers.length := by
  induction n generalizing race with
  | zero => rfl
  | succ n ih =>
      rw [press, List.replicate_succ, run_cons]
      exact (ih _).trans (length_producers_proceed race k)

theorem peaceful_press (k n : Nat) :
    ∀ m ∈ List.replicate n (Move.proceed k), m.peaceful = true := by
  intro m member
  rw [List.eq_of_mem_replicate member]
  rfl

/-- Whoever has an answer keeps it. -/
theorem answered_run_eq {answer : Except Refusal Unit} (tenure : race.Tenure)
    (found : race.producers[k]? = some p) (told : p.progress = .answered answer)
    (later : List Move) : (race.run later).producers[k]? = some p := by
  let Known (race : Race) : Prop := race.Tenure ∧ race.producers[k]? = some p
  have all : Known (race.run later) := by
    refine run_preserves ?_ (⟨tenure, found⟩ : Known race) later
    rintro before m after ⟨tenure, found⟩ step
    exact ⟨tenure.step step, step.answered_eq tenure found told⟩
  exact all.2

/-- These moves give the lock back without anybody new coming. -/
theorem Crowded.exists_unlocked (crowded : first.Crowded race) (tenure : race.Tenure) :
    ∃ more, (∀ m ∈ more, m.peaceful = true) ∧ (race.run more).holder = none
      ∧ (race.run more).producers.length = race.producers.length := by
  cases holds : race.holder with
  | none => exact ⟨[], by simp, holds, rfl⟩
  | some holder =>
      have peace := crowded.peaceful holds
      cases holder with
      | producer k request stage =>
          obtain ⟨p, found, inside, rfl⟩ := tenure.known (by rw [insider, holds])
          have within : race.Within k p stage := ⟨found, inside, holds⟩
          obtain ⟨n, outcome, gone⟩ := within.exists_gone
          exact ⟨_, peaceful_press k n, gone.unlocked, length_producers_press race k n⟩
      | opener =>
          refine ⟨[.carryOn, .carryOn], by simp [Move.peaceful], ?_⟩
          simp [move, carryOn, holds]
      | departing =>
          refine ⟨[.carryOn], by simp [Move.peaceful], ?_⟩
          simp [move, carryOn, holds]
      | closer | withdrawer | withdrawn | taker | bearer => cases peace

/-- A producer that is let gets its answer, whenever nobody holds the lock. -/
theorem Crowded.exists_answered (crowded : first.Crowded race) (settled : first.Settled)
    (tenure : race.Tenure) (unlocked : race.holder = none)
    (found : race.producers[k]? = some p) :
    ∃ n, (race.press k n).holder = none ∧ ∃ q answer,
      (race.press k n).producers[k]? = some q ∧ q.progress = .answered answer := by
  by_cases answered : ∃ answer, p.progress = .answered answer
  · obtain ⟨answer, told⟩ := answered
    exact ⟨0, unlocked, p, answer, found, told⟩
  · have beyond := crowded.length_le settled found fun answer told => answered ⟨answer, told⟩
    have fated := crowded.fates found beyond
    cases here : p.progress with
    | waiting sleeps =>
        have gone := gone_of_ready found here unlocked crowded.ready 0
        exact ⟨_, gone.unlocked, _, _, gone.told, rfl⟩
    | checked =>
        have gone := gone_of_checked found here unlocked 0
        exact ⟨_, gone.unlocked, _, _, gone.told, rfl⟩
    | inside =>
        have holds := tenure.inside found here
        rw [insider, unlocked] at holds
        cases holds
    | answered answer => exact absurd ⟨answer, here⟩ answered

/-- The first `count` producers all get an answer. -/
theorem Crowded.exists_settled_below (crowded : first.Crowded race) (settled : first.Settled)
    (balanced : race.Balanced) (tenure : race.Tenure) (unlocked : race.holder = none)
    {count : Nat} (enough : count ≤ race.producers.length) :
    ∃ more, (∀ m ∈ more, m.peaceful = true) ∧ (race.run more).holder = none
      ∧ (race.run more).producers.length = race.producers.length
      ∧ ∀ {j : Nat}, j < count → ∃ q answer,
        (race.run more).producers[j]? = some q ∧ q.progress = .answered answer := by
  induction count with
  | zero => exact ⟨[], by simp, unlocked, rfl, fun early => absurd early (Nat.not_lt_zero _)⟩
  | succ count ih =>
      obtain ⟨more, peace, unlocked, length, before⟩ := ih (Nat.le_of_succ_le enough)
      have later := crowded.run settled balanced tenure peace
      have onward := run_preserves Tenure.step tenure more
      have bound : count < (race.run more).producers.length := by
        rw [length]
        exact enough
      obtain ⟨n, free, q, answer, found, told⟩ :=
        later.exists_answered settled onward unlocked (List.getElem?_eq_getElem bound)
      refine ⟨more ++ List.replicate n (.proceed count), ?_, ?_⟩
      · intro m member
        rcases List.mem_append.1 member with early | late
        · exact peace m early
        · exact peaceful_press count n m late
      · rw [run_append]
        refine ⟨free, (length_producers_press _ count n).trans length, ?_⟩
        intro j early
        rcases Nat.lt_succ_iff_lt_or_eq.1 early with earlier | rfl
        · obtain ⟨q, answer, found, told⟩ := before earlier
          exact ⟨q, answer, answered_run_eq onward found told _, told⟩
        · exact ⟨q, answer, found, told⟩

/-- There is always a way on that answers everybody who has come. -/
theorem Crowded.exists_settled (crowded : first.Crowded race) (settled : first.Settled)
    (balanced : race.Balanced) (tenure : race.Tenure) :
    ∃ more, (∀ m ∈ more, m.peaceful = true) ∧ (race.run more).Settled
      ∧ (race.run more).producers.length = race.producers.length := by
  obtain ⟨unlock, peace, unlocked, same⟩ := crowded.exists_unlocked tenure
  have later := crowded.run settled balanced tenure peace
  have onward := run_preserves Tenure.step tenure unlock
  obtain ⟨more, peaceful, -, length, answered⟩ :=
    later.exists_settled_below settled (balanced.run unlock) onward unlocked (Nat.le_refl _)
  refine ⟨unlock ++ more, ?_, ?_⟩
  · intro m member
    rcases List.mem_append.1 member with early | late
    · exact peace m early
    · exact peaceful m late
  · rw [run_append]
    refine ⟨?_, length.trans same⟩
    intro k p found
    obtain ⟨bound, -⟩ := List.getElem?_eq_some_iff.1 found
    rw [length] at bound
    obtain ⟨q, answer, there, told⟩ := answered bound
    cases found.symm.trans there
    exact ⟨answer, told⟩

/-! ### What the crowd gets -/

/-- What becomes of the producers that have come since the race was as in `first`, once
everybody is answered. -/
structure Crowd (first later : Race) : Prop where
  accepted : (first.newcomers later).countP (Producer.told (.ok ()))
    = min (first.worthy later) first.intake.freeCount
  exhausted : (first.newcomers later).countP (Producer.told (.error .exhausted))
    = first.worthy later - min (first.worthy later) first.intake.freeCount
  illegal : (first.newcomers later).countP (Producer.told (.error .illegal))
    = (first.newcomers later).length - first.worthy later
  free : later.intake.freeCount
    = first.intake.freeCount - min (first.worthy later) first.intake.freeCount
  queued : later.intake.queuedCount
    = first.intake.queuedCount + min (first.worthy later) first.intake.freeCount
  earlier : first.producers <+: later.producers

/-- While nobody is inside, and nobody takes requests or shuts down, nobody has a slot in his
hands. -/
theorem Crowded.hands_eq (crowded : first.Crowded race) (tenure : race.Tenure)
    (settled : race.Settled) : race.hands = [] := by
  cases holds : race.holder with
  | none => exact hands_of_unlocked holds
  | some holder =>
      have peace := crowded.peaceful holds
      cases holder with
      | producer => exact absurd holds (settled.nobody_inside tenure)
      | opener | departing => simp [hands, holds, Holder.hands]
      | closer | withdrawer | withdrawn | taker | bearer => cases peace

/-- Those who were there and those who came are all there are. -/
theorem Crowded.producers_eq (crowded : first.Crowded race) :
    first.producers ++ first.newcomers race = race.producers := by
  refine List.prefix_iff_eq_append.1 (List.prefix_iff_getElem?.2 ?_)
  intro k early
  exact crowded.earlier (List.getElem?_eq_getElem early)

/-- Whoever came has come as far as it can. -/
theorem Crowded.mem_newcomers (crowded : first.Crowded race)
    (member : p ∈ first.newcomers race) :
    (∃ k : Nat, race.producers[k]? = some p) ∧ Fated race.intake p.request p.progress := by
  obtain ⟨j, there⟩ := List.mem_iff_getElem?.1 member
  rw [newcomers, List.getElem?_drop] at there
  exact ⟨⟨_, there⟩, crowded.fates there (Nat.le_add_right _ _)⟩

/-- A slot that is no longer free is queued, once nobody has one in his hands. -/
theorem Crowded.queuedCount_eq (crowded : first.Crowded race) (before : first.Balanced)
    (balanced : race.Balanced) (unlocked : first.holder = none) (empty : race.hands = []) :
    race.intake.freeCount + race.intake.queuedCount
      = first.intake.freeCount + first.intake.queuedCount := by
  have total := balanced.total
  have total' := before.total
  rw [empty, crowded.lost] at total
  rw [hands_of_unlocked unlocked] at total'
  omega

/-- What is true of every race, as far as counting its answers needs it. -/
structure Sound (race : Race) : Prop where
  balanced : race.Balanced
  tenure : race.Tenure
  truthful : race.Truthful
  lined : race.Lined

/-- What is known of any race is known here. -/
theorem sound_run (settings : Settings) (moves : List Move) :
    ((Race.start settings).run moves).Sound where
  balanced := balanced_run settings moves
  tenure := tenure_run settings moves
  truthful := truthful_run settings moves
  lined := lined_run settings moves

/-- The producers that have come since and were accepted are as many as the slots that have
left the pool. -/
theorem Crowded.countP_ok (crowded : first.Crowded race) (unlocked : first.holder = none)
    (empty : race.hands = []) (settled : race.Settled) (earlier : first.Sound)
    (sound : race.Sound) :
    (first.newcomers race).countP (Producer.told (.ok ())) + race.intake.freeCount
      = first.intake.freeCount := by
  have slots := crowded.slots
  have before := countP_told_ok earlier.truthful earlier.lined (by simp [unlocked])
  have now : race.producers.countP (Producer.told (.ok ())) = race.accepted.length := by
    apply countP_told_ok sound.truthful sound.lined
    exact fun k request => settled.nobody_inside sound.tenure
  rw [← crowded.producers_eq, List.countP_append, before] at now
  rw [empty, List.length_nil] at slots
  omega

/-- Once everybody is answered, counting the slots counts the answers. -/
theorem Crowded.crowd (crowded : first.Crowded race) (unlocked : first.holder = none)
    (settled : race.Settled) (earlier : first.Sound) (sound : race.Sound) :
    first.Crowd race := by
  have empty := crowded.hands_eq sound.tenure settled
  have moved := crowded.countP_ok unlocked empty settled earlier sound
  have queued := crowded.queuedCount_eq earlier.balanced sound.balanced unlocked empty
  have answered : ∀ p ∈ first.newcomers race, ∃ answer, p.progress = .answered answer := by
    intro p member
    obtain ⟨⟨k, found⟩, -⟩ := crowded.mem_newcomers member
    exact settled found
  obtain ⟨worthy, all⟩ :=
    countP_of_fated (fun p member => (crowded.mem_newcomers member).2) answered
  have none_left : race.intake.freeCount = 0
      ∨ (first.newcomers race).countP (Producer.told (.error .exhausted)) = 0 := by
    rw [List.countP_eq_zero]
    by_cases gone : race.intake.chains.freeChain = []
    · rw [Intake.freeCount, gone]
      exact .inl rfl
    · right
      intro p member told
      have fated := (crowded.mem_newcomers member).2
      rw [Producer.told_iff.1 told] at fated
      cases fated with
      | exhausted _ empty => exact gone empty
  rw [crowded.settings] at worthy all
  rw [← Race.worthy] at worthy all
  refine ⟨?_, ?_, ?_, ?_, ?_, ?_⟩
  · omega
  · omega
  · omega
  · omega
  · omega
  · rw [← crowded.producers_eq]
    exact List.prefix_append _ _

/-- What the moves so far have come to, and what producers that come next will come to. -/
structure Decisive (settings : Settings) (moves : List Move) : Prop where
  /-- A request that is handed in in one go. -/
  decided : ∀ (sees : Nat → Bool) (s : Submission),
    ((start settings).run moves).intake.Decided sees s
      (((start settings).run moves).intake.submitSeeing sees s).1
      (((start settings).run moves).intake.submitSeeing sees s).2
  /-- Whoever has its answer has it as if it had handed in its request in one go. -/
  answered : ∀ {k : Nat} {p : Producer} {answer : Except Refusal Unit},
    ((start settings).run moves).producers[k]? = some p → p.progress = .answered answer →
      Answered settings moves k p.request answer
  traceless : ∀ {k : Nat} {p : Producer} {refusal : Refusal},
    ((start settings).run moves).producers[k]? = some p →
      p.progress = .answered (.error refusal) → Traceless settings moves k
  /-- Producers that come to a calm intake, while nobody takes requests or shuts down, can all
  be answered, and then as many are accepted as slots were free. -/
  crowd : ((start settings).run moves).Calm → ∀ {later : List Move},
    (∀ m ∈ later, m.peaceful = true) →
      (((start settings).run (moves ++ later)).Settled →
        ((start settings).run moves).Crowd ((start settings).run (moves ++ later)))
      ∧ ∃ more, (∀ m ∈ more, m.peaceful = true)
        ∧ ((start settings).run (moves ++ later ++ more)).Settled
        ∧ ((start settings).run (moves ++ later ++ more)).producers.length
          = ((start settings).run (moves ++ later)).producers.length

/-- Every answer is the one that a producer would get in one go, a refusal leaves no trace, and a
crowd is accepted up to the last free slot. -/
theorem submitting_decides (settings : Settings) (moves : List Move) :
    Decisive settings moves := by
  obtain ⟨free, queue, accounted⟩ := balanced_run settings moves
  refine ⟨?_, ?_, ?_, ?_⟩
  · intro sees s
    exact Intake.decided_submitSeeing accounted.layout accounted.room sees s
  · intro k p answer found told
    exact answered_run settings moves found told
  · intro k p refusal found refused
    exact traceless_of_refused found refused
  · intro calm later peace
    have earlier := sound_run settings moves
    have sound := sound_run settings (moves ++ later)
    have crowded := (Crowded.start calm).run calm.settled earlier.balanced earlier.tenure peace
    rw [← run_append] at crowded
    constructor
    · intro settled
      exact crowded.crowd calm.unlocked settled earlier sound
    · obtain ⟨more, peaceful, settled, length⟩ :=
        crowded.exists_settled calm.settled sound.balanced sound.tenure
      rw [← run_append] at settled length
      exact ⟨more, peaceful, settled, length⟩

/-- Six producers come at once, one of them with a channel that is not the service's, and take
their steps in turn. -/
def sixAtOnce : List Move :=
  (List.replicate 5 (.arrive ⟨1, "help", .replicate _ "", "/tmp/1"⟩)
    ++ [.arrive ⟨1, "help", .replicate _ "", "/var/1"⟩])
    ++ (List.replicate 40 ((List.range 6).map .proceed)).flatten

/-- Of five requests that are in order four are accepted, since there are four slots. -/
theorem submitting_decides_six_at_once :
    ((start ⟨1000, 10, 10000, "/tmp/", ""⟩).run [.markReady, .carryOn, .carryOn]).Calm
      ∧ ((start ⟨1000, 10, 10000, "/tmp/", ""⟩).run
        ([.markReady, .carryOn, .carryOn] ++ sixAtOnce)).Settled
      ∧ ((start ⟨1000, 10, 10000, "/tmp/", ""⟩).run [.markReady, .carryOn, .carryOn]).worthy
        ((start ⟨1000, 10, 10000, "/tmp/", ""⟩).run
          ([.markReady, .carryOn, .carryOn] ++ sixAtOnce)) = 5
      ∧ ((start ⟨1000, 10, 10000, "/tmp/", ""⟩).run [.markReady, .carryOn, .carryOn]).Crowd
        ((start ⟨1000, 10, 10000, "/tmp/", ""⟩).run
          ([.markReady, .carryOn, .carryOn] ++ sixAtOnce)) := by
  have calm : ((start ⟨1000, 10, 10000, "/tmp/", ""⟩).run
      [.markReady, .carryOn, .carryOn]).Calm := ⟨rfl, rfl, rfl, fun found => by cases found⟩
  have answered : ∀ p ∈ ((start ⟨1000, 10, 10000, "/tmp/", ""⟩).run
      ([.markReady, .carryOn, .carryOn] ++ sixAtOnce)).producers,
      ∃ answer ∈ [.ok (), .error .exhausted, .error .illegal], p.told answer = true := by
    decide +kernel
  have settled : ((start ⟨1000, 10, 10000, "/tmp/", ""⟩).run
      ([.markReady, .carryOn, .carryOn] ++ sixAtOnce)).Settled := by
    intro k p found
    obtain ⟨answer, -, told⟩ := answered p (List.mem_of_getElem? found)
    exact ⟨answer, Producer.told_iff.1 told⟩
  have decides := submitting_decides ⟨1000, 10, 10000, "/tmp/", ""⟩ [.markReady, .carryOn, .carryOn]
  have peace : ∀ m ∈ sixAtOnce, m.peaceful = true := by
    decide +kernel
  exact ⟨calm, settled, by decide +kernel, (decides.crowd calm peace).1 settled⟩

end Race

end AttachService
