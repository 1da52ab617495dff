/-
Module: AttachService.Proofs.Race.Order
Purpose: Requests are accepted in the order in which the lock was taken, once each, and taken
  in the same order.
Trusted boundary: none
Main exports: Race.Lined, Race.Admitted, Race.Truthful, Race.InOrder, Race.taken_in_order
-/
import AttachService.Proofs.Race.Queue

namespace AttachService

/-- The producer has not had the lock yet. -/
def Progress.outside : Progress → Bool
  | .waiting _ | .checked => true
  | .inside | .answered _ => false

/-- What is kept of a request depends on its version only. -/
theorem Pending.ofSubmission_eq (s : Submission) :
    Pending.ofSubmission s =
      if s.version = 1 then .inline s.name s.args.toList s.channel
      else if s.version = 2 then .onChannel s.channel
      else .unsupported s.version s.name := by
  unfold Pending.ofSubmission Version.ofNumber?
  by_cases first : s.version = 1
  · simp only [if_pos first]
  · by_cases second : s.version = 2
    · simp only [if_neg first, if_pos second]
    · simp only [if_neg first, if_neg second]

namespace Race

variable {race after : Race} {m : Move} {free queue : List SlotId} {k : Nat} {p : Producer}
  {progress : Progress}

/-! ### The order of acceptance -/

/-- Producers take the lock once each, and are accepted in the order in which they take it. -/
structure Lined (race : Race) : Prop where
  order : (race.accepted.map (·.1)).Sublist race.entered
  turn : ∀ {k : Nat} {request : Submission} {stage : Stage},
    race.holder = some (.producer k request stage) → (∀ answer, stage ≠ .leaving answer) →
      (race.accepted.map (·.1) ++ [k]).Sublist race.entered
  once : race.entered.Nodup
  past : ∀ {k : Nat}, k ∈ race.entered →
    ∃ p, race.producers[k]? = some p ∧ p.progress.outside = false

namespace Lined

/-- Nothing changes in the line if nobody enters, leaves or is accepted. -/
theorem congr (lined : race.Lined) (accepted : after.accepted = race.accepted)
    (entered : after.entered = race.entered) (producers : after.producers = race.producers)
    (turn : ∀ {k : Nat} {request : Submission} {stage : Stage},
      after.holder = some (.producer k request stage) → (∀ answer, stage ≠ .leaving answer) →
        (race.accepted.map (·.1) ++ [k]).Sublist race.entered) : after.Lined where
  order := by
    rw [accepted, entered]
    exact lined.order
  turn holds stays := by
    rw [accepted, entered]
    exact turn holds stays
  once := by
    rw [entered]
    exact lined.once
  past member := by
    rw [entered] at member
    rw [producers]
    exact lined.past member

/-- A producer that has had the lock does not go back to asking for it. -/
theorem past_advance (lined : race.Lined) (found : race.producers[k]? = some p)
    (onward : p.progress.outside = true ∨ progress.outside = false) {j : Nat}
    (member : j ∈ race.entered) :
    ∃ q, (race.advance k progress).producers[j]? = some q ∧ q.progress.outside = false := by
  obtain ⟨q, there, past⟩ := lined.past member
  by_cases same : k = j
  · subst same
    rw [found] at there
    cases there
    refine ⟨_, getElem?_advance_self found, onward.resolve_left ?_⟩
    simp [past]
  · refine ⟨q, ?_, past⟩
    rw [getElem?_advance_of_ne same]
    exact there

/-- A producer that goes on keeps its turn. -/
theorem advance (lined : race.Lined) (found : race.producers[k]? = some p)
    (onward : p.progress.outside = true ∨ progress.outside = false) :
    (race.advance k progress).Lined where
  order := lined.order
  turn := lined.turn
  once := lined.once
  past := lined.past_advance found onward

/-- A producer that asks for the lock has not had it before, and is the last one to get it. -/
theorem enter (lined : race.Lined) (found : race.producers[k]? = some p)
    (here : p.progress = .checked) :
    ({ race.advance k .inside with
        holder := some (.producer k p.request .entered)
        entered := race.entered ++ [k] } : Race).Lined := by
  have new : k ∉ race.entered := by
    intro member
    obtain ⟨q, there, past⟩ := lined.past member
    rw [found] at there
    obtain rfl := Option.some.inj there
    rw [here] at past
    cases past
  have behind : (race.accepted.map (·.1) ++ [k]).Sublist (race.entered ++ [k]) :=
    lined.order.append_right [k]
  exact {
    order := lined.order.trans (List.sublist_append_left _ _)
    turn := by
      intro j request stage holds _
      cases holds
      exact behind
    once := by
      refine List.nodup_append.2 ⟨lined.once, List.nodup_singleton k, ?_⟩
      intro j member i only same
      obtain rfl := List.mem_singleton.1 only
      exact new (same ▸ member)
    past := by
      intro j member
      rcases List.mem_append.1 member with before | only
      · exact lined.past_advance found (.inr rfl) before
      · obtain rfl := List.mem_singleton.1 only
        exact ⟨_, getElem?_advance_self found, rfl⟩ }

/-- The request that is queued is that of the producer inside, the last one that took the
lock. -/
theorem enlist {i : SlotId} {request : Submission} (lined : race.Lined)
    (holds : race.holder = some (.producer k request (.filled i))) :
    ({ race with
        intake := race.intake.enlist i
        holder := some (.producer k request (.leaving (.ok ())))
        accepted := race.accepted ++ [(k, request)] } : Race).Lined where
  order := by
    rw [List.map_append, List.map_singleton]
    exact lined.turn holds (by simp)
  turn same stays := by
    cases same
    exact absurd rfl (stays _)
  once := lined.once
  past := lined.past

/-- Who takes the lock goes to the end of the line. -/
theorem step (lined : race.Lined) (tenure : race.Tenure) (step : race.Step m after) :
    after.Lined := by
  have turn := @lined.turn
  cases step with
  | arrive fresh =>
      refine ⟨lined.order, turn, lined.once, ?_⟩
      intro j member
      obtain ⟨p, found, past⟩ := lined.past member
      exact ⟨p, getElem?_concat_of_some found, past⟩
  | sleep found here | pass found here =>
      exact lined.advance found (.inl (by rw [here]; rfl))
  | refuse found => exact lined.advance found (.inr rfl)
  | enter found here => exact lined.enter found here
  | @leave k request answer holds =>
      obtain ⟨p, found, -, -⟩ := tenure.known (by rw [insider, holds])
      have gone : (race.advance k (.answered answer)).Lined := lined.advance found (.inr rfl)
      exact ⟨gone.order, by simp, gone.once, gone.past⟩
  | welcome holds | reserve holds | announce holds | fill holds =>
      refine lined.congr rfl rfl rfl ?_
      intro j other stage same _
      cases same
      exact turn holds (by simp)
  | turnAway | overflow =>
      refine lined.congr rfl rfl rfl ?_
      intro j other stage same stays
      cases same
      exact absurd rfl (stays _)
  | enlist holds => exact lined.enlist holds
  | close | acquire | sendHome => exact lined.congr rfl rfl rfl turn
  | lockToOpen | markReady | comeLate | lockToClose | markClosed | markUnready | withdraw
  | lockToTake | findNothing | take | giveBack | depart | die =>
      exact lined.congr rfl rfl rfl (by simp)

end Lined

theorem lined_start (settings : Settings) : (start settings).Lined :=
  ⟨List.Sublist.slnil, by simp [start], List.nodup_nil, by simp [start]⟩

/-- At every moment producers are accepted in the order in which they took the lock. -/
theorem lined_run (settings : Settings) (moves : List Move) :
    ((start settings).run moves).Lined :=
  start_induction (lined_start settings) (fun _ tenure lined step => lined.step tenure step) moves

/-! ### The answers -/

/-- The producer with this number was told that its request was accepted, or is about to be. -/
def Admitted (race : Race) (k : Nat) (request : Submission) : Prop :=
  (∃ p, race.producers[k]? = some p ∧ p.request = request ∧ p.progress = .answered (.ok ()))
    ∨ race.holder = some (.producer k request (.leaving (.ok ())))

/-- Exactly the accepted requests are answered so. -/
def Truthful (race : Race) : Prop :=
  ∀ k request, (k, request) ∈ race.accepted ↔ race.Admitted k request

/-- A step that answers nobody. -/
theorem admitted_congr (producers : after.producers = race.producers)
    (before : ∀ k request, race.holder ≠ some (.producer k request (.leaving (.ok ()))))
    (beyond : ∀ k request, after.holder ≠ some (.producer k request (.leaving (.ok ()))))
    (k : Nat) (request : Submission) : after.Admitted k request ↔ race.Admitted k request := by
  unfold Admitted
  rw [producers]
  exact or_congr_right ⟨fun now => absurd now (beyond _ _), fun once => absurd once (before _ _)⟩

/-- Nobody is accepted while it asks for the lock, or by taking it. -/
theorem admitted_advance (found : race.producers[k]? = some p)
    (before : p.progress ≠ .answered (.ok ())) (beyond : progress ≠ .answered (.ok ()))
    (j : Nat) (request : Submission) :
    (race.advance k progress).Admitted j request ↔ race.Admitted j request := by
  constructor
  · rintro (⟨q, here, same, told⟩ | holds)
    · rcases of_getElem?_advance found here with ⟨-, rfl⟩ | ⟨-, there⟩
      · exact absurd told beyond
      · exact .inl ⟨q, there, same, told⟩
    · exact .inr holds
  · rintro (⟨q, there, same, told⟩ | holds)
    · refine .inl ⟨q, getElem?_advance_of_progress_ne found there ?_, same, told⟩
      rw [told]
      exact before
    · exact .inr holds

/-- Whoever leaves takes its answer along. -/
theorem admitted_leave {request : Submission} {answer : Except Refusal Unit}
    (tenure : race.Tenure) (holds : race.holder = some (.producer k request (.leaving answer)))
    (j : Nat) (other : Submission) :
    ({ race.advance k (.answered answer) with holder := none } : Race).Admitted j other
      ↔ race.Admitted j other := by
  obtain ⟨p, found, inside, rfl⟩ := tenure.known (by rw [insider, holds])
  constructor
  · rintro (⟨q, here, rfl, told⟩ | nobody)
    · rcases of_getElem?_advance found here with ⟨rfl, rfl⟩ | ⟨-, there⟩
      · cases told
        exact .inr holds
      · exact .inl ⟨q, there, rfl, told⟩
    · cases nobody
  · rintro (⟨q, there, rfl, told⟩ | same)
    · refine .inl ⟨q, getElem?_advance_of_progress_ne found there ?_, rfl, told⟩
      rw [inside, told]
      simp
    · rw [holds] at same
      cases same
      exact .inl ⟨_, getElem?_advance_self found, rfl, rfl⟩

/-- Nobody is accepted by coming. -/
theorem admitted_arrive (fresh : Submission) (j : Nat) (other : Submission) :
    ({ race with producers := race.producers ++ [{ request := fresh }] } : Race).Admitted j other
      ↔ race.Admitted j other := by
  constructor
  · rintro (⟨p, here, same, told⟩ | holds)
    · rcases of_getElem?_concat here with there | ⟨-, rfl⟩
      · exact .inl ⟨p, there, same, told⟩
      · cases told
    · exact .inr holds
  · rintro (⟨p, found, same, told⟩ | holds)
    · exact .inl ⟨p, getElem?_concat_of_some found, same, told⟩
    · exact .inr holds

/-- Whoever queues its request is accepted by that. -/
theorem Truthful.enlist {i : SlotId} {request : Submission} (truthful : race.Truthful)
    (holds : race.holder = some (.producer k request (.filled i))) :
    ({ race with
        intake := race.intake.enlist i
        holder := some (.producer k request (.leaving (.ok ())))
        accepted := race.accepted ++ [(k, request)] } : Race).Truthful := by
  intro j other
  rw [List.mem_append, truthful]
  constructor
  · rintro ((told | inside) | new)
    · exact .inl told
    · rw [holds] at inside
      cases inside
    · cases List.mem_singleton.1 new
      exact .inr rfl
  · rintro (told | same)
    · exact .inl (.inl told)
    · cases same
      exact .inr (List.mem_singleton_self _)

/-- A request is noted as accepted in the step with which its producer is bound to hear so. -/
theorem Truthful.step (truthful : race.Truthful) (accounted : race.Accounted free queue)
    (tenure : race.Tenure) (step : race.Step m after) : after.Truthful := by
  intro j other
  cases step with
  | arrive fresh => exact (truthful j other).trans (admitted_arrive fresh j other).symm
  | sleep found here | pass found here =>
      exact (truthful j other).trans
        (admitted_advance found (by simp [here]) (by simp) j other).symm
  | refuse found reason =>
      refine (truthful j other).trans (admitted_advance found ?_ (by simp) j other).symm
      rcases reason.outside with here | ⟨sleeps, here⟩
      · simp [here]
      · simp [here]
  | @enter k p found here unlocked =>
      have inside : (race.advance k .inside).Admitted j other ↔ race.Admitted j other :=
        admitted_advance found (by simp [here]) (by simp) j other
      refine (truthful j other).trans (Iff.trans ?_ inside).symm
      apply admitted_congr
      · rfl
      · simp [advance, unlocked]
      · simp
  | leave holds => exact (truthful j other).trans (admitted_leave tenure holds j other).symm
  | overflow holds full => exact absurd full (accounted.announce?_ne_none holds)
  | enlist holds => exact truthful.enlist holds j other
  | close | acquire | sendHome => exact truthful j other
  | turnAway holds reason =>
      refine (truthful j other).trans (Iff.symm ?_)
      apply admitted_congr
      · rfl
      · rcases reason.early with rfl | rfl
        · simp [holds]
        · simp [holds]
      · simp
  | welcome holds | reserve holds | announce holds | fill holds | lockToOpen holds
  | markReady holds | comeLate holds | lockToClose holds | markClosed holds | markUnready holds
  | withdraw holds | lockToTake holds | findNothing holds | take holds | giveBack holds
  | depart holds | die holds =>
      refine (truthful j other).trans (Iff.symm ?_)
      apply admitted_congr
      · rfl
      · simp [holds]
      · simp

theorem truthful_start (settings : Settings) : (start settings).Truthful := by
  intro k request
  simp [start, Admitted]

/-- At every moment exactly the accepted requests are answered so. -/
theorem truthful_run (settings : Settings) (moves : List Move) :
    ((start settings).run moves).Truthful :=
  start_induction (truthful_start settings)
    (fun accounted tenure truthful step => Truthful.step truthful accounted tenure step) moves

/-- An accepted request is the one that its producer came with. -/
theorem Truthful.own (truthful : race.Truthful) (tenure : race.Tenure) {request : Submission}
    (member : (k, request) ∈ race.accepted) :
    ∃ p, race.producers[k]? = some p ∧ p.request = request := by
  rcases (truthful k request).1 member with ⟨p, found, same, -⟩ | holds
  · exact ⟨p, found, same⟩
  · obtain ⟨p, found, -, same⟩ := tenure.known (by rw [insider, holds])
    exact ⟨p, found, same⟩

/-! ### What the consumers get -/

/-- Who was accepted, in which order, and what has become of the requests. -/
structure InOrder (race : Race) : Prop where
  /-- No request is lost, taken twice or overtaken. -/
  record : race.accepted.map (·.2) = race.taken ++ race.intake.chains.queued
  taken : race.taken <+: race.accepted.map (·.2)
  /-- Requests are accepted in the order in which their producers took the lock. -/
  order : (race.accepted.map (·.1)).Sublist race.entered
  once : race.entered.Nodup
  distinct : (race.accepted.map (·.1)).Nodup
  answers : ∀ k request, (k, request) ∈ race.accepted ↔ race.Admitted k request
  /-- What a consumer keeps of a slot is what the producer of the request came with. -/
  kept : ∀ {n : Nat} {kept : Pending}, (race.taken.map .ofSubmission)[n]? = some kept →
    ∃ k p, race.accepted[n]? = some (k, p.request) ∧ race.producers[k]? = some p ∧
      kept = if p.request.version = 1 then
          .inline p.request.name p.request.args.toList p.request.channel
        else if p.request.version = 2 then .onChannel p.request.channel
        else .unsupported p.request.version p.request.name

/-- Whatever the parties do, requests are accepted in the order of the lock, and taken in the same
one, as they were handed in. -/
theorem taken_in_order (settings : Settings) (moves : List Move) :
    ((start settings).run moves).InOrder := by
  have queued := queued_run settings moves
  have tenure := tenure_run settings moves
  have lined := lined_run settings moves
  have truthful := truthful_run settings moves
  generalize (start settings).run moves = race at queued tenure lined truthful
  have record := queued.record
  have ahead : race.taken <+: race.accepted.map (·.2) := ⟨_, record.symm⟩
  exact {
    record := record
    taken := ahead
    order := lined.order
    once := lined.once
    distinct := lined.order.nodup lined.once
    answers := truthful
    kept := by
      intro n kept found
      rw [List.getElem?_map, Option.map_eq_some_iff] at found
      obtain ⟨request, here, rfl⟩ := found
      have there : (race.accepted.map (·.2))[n]? = some request := by
        rw [record, List.getElem?_append_left (List.getElem?_eq_some_iff.1 here).1]
        exact here
      rw [List.getElem?_map, Option.map_eq_some_iff] at there
      obtain ⟨⟨k, request⟩, accepted, rfl⟩ := there
      obtain ⟨p, found, rfl⟩ := truthful.own tenure (List.mem_of_getElem? accepted)
      exact ⟨k, p, accepted, found, Pending.ofSubmission_eq p.request⟩ }

end Race

end AttachService
