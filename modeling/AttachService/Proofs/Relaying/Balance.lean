/-
Module: AttachService.Proofs.Relaying.Balance
Purpose: Every name that the relay thread was given is accounted for: it was accepted, or a
  refusal was reported, or its producer is under way.
Trusted boundary: none
Main exports: Relaying.relayed, Relaying.taken, Relaying.accepted, Relaying.warnings,
  Relaying.underWay, Relaying.Kept.mem_accepted, Relaying.balance
-/
import AttachService.Proofs.Relaying.Accounts

namespace AttachService.Relaying

/-!
The producers of the thread are sorted by their numbers into three: those whose requests are
among the accepted ones, those that are through without that, and the rest.  The first are as many
as the requests accepted from them, since nobody is accepted twice; the second as many as the
warnings, since each has reported its refusal once.
-/

variable {r : Relaying} {k : Nat} {channel : String} {answer : Except Refusal Unit}
  {stream : List Arrival}

/-- Whether the thread has started the producer with this number. -/
def relayed (r : Relaying) (k : Nat) : Bool := (r.origins[k]?.bind Origin.channel?).isSome

/-- The names that the thread was given. -/
def taken (r : Relaying) : List String := r.heard.filterMap Arrival.channel?

/-- The requests accepted from producers of the thread. -/
def accepted (r : Relaying) : List (Nat × Submission) :=
  r.race.accepted.filter fun a => r.relayed a.1

/-- The refusals that were reported. -/
def warnings (r : Relaying) : List (String × Refusal) := r.events.filterMap Event.refusal?

/-- The producers of the thread, by their numbers. -/
def own (r : Relaying) : List Nat := (List.range r.origins.length).filter r.relayed

/-- Those of them that were neither accepted nor are through. -/
def underWay (r : Relaying) : List Nat :=
  r.own.filter fun k => k ∉ r.race.accepted.map Prod.fst ∧ k ∉ r.finished

/-- Which producers the thread has started is seen from where they come from. -/
theorem relayed_iff : r.relayed k = true ↔ ∃ channel, r.origins[k]? = some (.relayed channel) := by
  unfold relayed
  cases r.origins[k]? with
  | none => simp
  | some origin => cases origin <;> simp [Origin.channel?]

theorem mem_own : k ∈ r.own ↔ r.relayed k = true := by
  unfold own
  rw [List.mem_filter, List.mem_range]
  refine and_iff_right_of_imp fun own => ?_
  obtain ⟨channel, found⟩ := relayed_iff.1 own
  exact (List.getElem?_eq_some_iff.1 found).1

theorem nodup_own (r : Relaying) : r.own.Nodup := List.nodup_range.filter _

/-- What a producer comes with is known from where it comes from. -/
theorem Kept.request_eq (kept : r.Kept stream) {p : Producer}
    (found : r.race.producers[k]? = some p) :
    ∃ origin, r.origins[k]? = some origin ∧ p.request = origin.request := by
  have same := congrArg (·[k]?) kept.requests
  simp only [List.getElem?_map, found, Option.map_some] at same
  obtain ⟨origin, there, request⟩ := Option.map_eq_some_iff.1 same.symm
  exact ⟨origin, there, request.symm⟩

/-- Whatever is accepted from a producer of the thread is what it was started for. -/
theorem Kept.mem_accepted (kept : r.Kept stream) (truthful : r.race.Truthful)
    {request : Submission} (member : (k, request) ∈ r.accepted) :
    ∃ channel, r.origins[k]? = some (.relayed channel)
      ∧ request = (Origin.relayed channel).request := by
  obtain ⟨among, own⟩ := List.mem_filter.1 member
  obtain ⟨channel, found⟩ := relayed_iff.1 own
  obtain ⟨p, there, rfl⟩ := truthful.own kept.tenure among
  obtain ⟨origin, here, same⟩ := kept.request_eq there
  cases found.symm.trans here
  exact ⟨channel, found, same⟩

/-! ### Counting -/

/-- Whoever goes through a list by its places finds as many things of one kind as there are. -/
theorem length_filter_range {α β : Type} (f : α → Option β) (xs : List α) :
    ((List.range xs.length).filter fun k => (xs[k]?.bind f).isSome).length
      = (xs.filterMap f).length := by
  induction xs using List.reverseRecOn with
  | nil => rfl
  | append_singleton xs x ih =>
      have before : (List.range xs.length).filter (fun k => ((xs ++ [x])[k]?.bind f).isSome)
          = (List.range xs.length).filter fun k => (xs[k]?.bind f).isSome := by
        apply List.filter_congr
        intro k bound
        rw [List.getElem?_append_left (List.mem_range.1 bound)]
      rw [List.length_append, List.length_singleton, List.range_succ, List.filter_append,
        List.length_append, before, ih, List.filterMap_append, List.length_append]
      cases found : f x <;> simp [found]

/-- The thread has as many producers as it has started. -/
theorem length_own (r : Relaying) : r.own.length = (r.origins.filterMap Origin.channel?).length :=
  length_filter_range Origin.channel? r.origins

/-- Two lists without repetitions and with the same items are equally long. -/
theorem length_eq_of_mem_iff {xs ys : List Nat} (first : xs.Nodup) (second : ys.Nodup)
    (same : ∀ k, k ∈ xs ↔ k ∈ ys) : xs.length = ys.length :=
  ((List.perm_ext_iff_of_nodup first second).2 same).length_eq

/-- Two properties cut a list into three. -/
theorem length_filter_three (P Q : Nat → Prop) [DecidablePred P] [DecidablePred Q]
    (numbers : List Nat) :
    (numbers.filter P).length + (numbers.filter fun k => ¬ P k ∧ Q k).length
      + (numbers.filter fun k => ¬ P k ∧ ¬ Q k).length = numbers.length := by
  induction numbers with
  | nil => rfl
  | cons k rest ih =>
      simp only [List.filter_cons, decide_eq_true_eq, List.length_cons]
      by_cases first : P k <;> by_cases second : Q k <;>
        simp only [first, second, not_true, not_false_iff, and_true, and_false, if_true, if_false,
          List.length_cons] <;>
        omega

/-! ### Who is among whom -/

/-- A producer of the thread that has its answer was accepted exactly if that says so. -/
theorem accepted_iff_of_answer (truthful : r.race.Truthful) (tenure : r.race.Tenure)
    (told : r.answer? k = some (channel, answer)) :
    k ∈ r.race.accepted.map Prod.fst ↔ answer = .ok () := by
  obtain ⟨-, p, found, answered⟩ := answer?_eq_some_iff.1 told
  constructor
  · intro member
    obtain ⟨⟨k, request⟩, among, rfl⟩ := List.mem_map.1 member
    rcases (truthful k request).1 among with ⟨q, there, -, accepted⟩ | holds
    · cases found.symm.trans there
      cases answered.symm.trans accepted
      rfl
    · obtain ⟨q, there, inside, -⟩ := tenure.known (by rw [Race.insider, holds])
      cases found.symm.trans there
      cases answered.symm.trans inside
  · rintro rfl
    exact List.mem_map.2 ⟨(k, p.request),
      (truthful k p.request).2 (.inl ⟨p, found, rfl, answered⟩), rfl⟩

/-- A producer of the thread that is through without having been accepted has reported that. -/
theorem warning?_iff (kept : r.Kept stream) (truthful : r.race.Truthful) (done : k ∈ r.finished) :
    (r.warning? k).isSome = true ↔ k ∉ r.race.accepted.map Prod.fst := by
  obtain ⟨channel, answer, told⟩ := kept.answered k done
  rw [accepted_iff_of_answer truthful kept.tenure told, warning?, told]
  cases answer <;> simp

/-- Only producers of the thread report anything. -/
theorem relayed_of_finished (kept : r.Kept stream) (done : k ∈ r.finished) :
    r.relayed k = true := by
  obtain ⟨channel, answer, told⟩ := kept.answered k done
  exact relayed_iff.2 ⟨channel, (answer?_eq_some_iff.1 told).1⟩

/-- One request at most is accepted of a producer. -/
theorem length_accepted (lined : r.race.Lined) :
    r.accepted.length = (r.own.filter (· ∈ r.race.accepted.map Prod.fst)).length := by
  have distinct : (r.race.accepted.map Prod.fst).Nodup := lined.order.nodup lined.once
  have numbers : r.accepted.map Prod.fst = (r.race.accepted.map Prod.fst).filter r.relayed := by
    rw [List.filter_map]
    rfl
  have counted : (r.accepted.map Prod.fst).length = r.accepted.length := List.length_map Prod.fst
  rw [← counted, numbers]
  apply length_eq_of_mem_iff (distinct.filter _) (r.nodup_own.filter _)
  intro k
  rw [List.mem_filter, List.mem_filter, mem_own, decide_eq_true_iff, and_comm]

/-- Who is through and was not accepted has reported a refusal. -/
theorem length_warnings (kept : r.Kept stream) (truthful : r.race.Truthful) :
    r.warnings.length
      = (r.own.filter fun k => k ∉ r.race.accepted.map Prod.fst ∧ k ∈ r.finished).length := by
  have reporting : r.warnings.length
      = (r.finished.filter fun k => (r.warning? k).isSome).length := by
    rw [warnings, kept.warnings, List.length_filterMap_eq_countP, List.countP_eq_length_filter]
  rw [reporting]
  apply length_eq_of_mem_iff (kept.once.filter _) (r.nodup_own.filter _)
  intro k
  rw [List.mem_filter, List.mem_filter, mem_own, decide_eq_true_iff]
  constructor
  · rintro ⟨done, warns⟩
    exact ⟨relayed_of_finished kept done, (warning?_iff kept truthful done).1 warns, done⟩
  · rintro ⟨-, unaccepted, done⟩
    exact ⟨done, (warning?_iff kept truthful done).2 unaccepted⟩

/-! ### The balance -/

/-- Each name was accepted, was refused, is under way, or has no producer yet. -/
theorem balance (kept : r.Kept stream) (truthful : r.race.Truthful) (lined : r.race.Lined) :
    r.accepted.length + r.warnings.length + r.underWay.length + r.post.channel?.toList.length
      = r.taken.length := by
  rw [length_accepted lined, length_warnings kept truthful, underWay, length_filter_three,
    length_own, taken, kept.names, List.length_append]

end AttachService.Relaying
