/-
Module: AttachService.Proofs.Intake.Handling
Purpose: What each way of handling a slot or a unit does to the pool, the queue and the count.
Trusted boundary: none
Main exports: Chains.Layout.of_takeFree, Chains.Layout.of_takeHead, Intake.reserve?_eq_some_iff,
  Intake.pull?_eq_some_iff, Intake.announce?_eq_some_iff, Intake.layout_vacate,
  Intake.layout_copyIn, Intake.layout_enlist
-/
import AttachService.Intake.Next
import AttachService.Intake.Submit
import AttachService.Proofs.Pool.Layout

namespace AttachService

/-! ### The queue as a list of requests -/

namespace Chains.Layout

variable {t u : Chains} {i : SlotId} {free free' queue held held' : List SlotId}

/-- The queued requests stay the same as long as no queued slot is written to. -/
theorem queued_congr (before : t.Layout free queue held) (after : u.Layout free' queue held')
    (same : ∀ j ∈ queue, (u.slot j).contents = (t.slot j).contents) : u.queued = t.queued := by
  rw [before.queued_eq, after.queued_eq]
  exact List.map_congr_left same

/-- A slot goes to the end of the queue with what is in it. -/
theorem queued_append (layout : t.Layout free queue (i :: held)) :
    (t.append i).queued = t.queued ++ [(t.slot i).contents] := by
  rw [layout.append.queued_eq, layout.queued_eq, List.map_append, List.map_singleton]
  simp only [contents_append]

/-- Nothing is seen of a request in a slot that is not queued. -/
theorem queued_fill (layout : t.Layout free queue (i :: held)) (request : Submission) :
    (t.fill i request).2.queued = t.queued := by
  refine layout.queued_congr (layout.fill i request) ?_
  intro j queued
  refine contents_fill_of_ne t request ?_
  rintro rfl
  exact (layout.of_mem_held List.mem_cons_self).2 queued

/-- What is taken from the pool is its top. -/
theorem of_takeFree (layout : t.Layout free queue held) (found : t.takeFree = some (i, u)) :
    ∃ rest, free = i :: rest ∧ u.Layout rest queue (i :: held) ∧ u.queued = t.queued := by
  cases free with
  | nil =>
      rw [layout.takeFree_nil] at found
      cases found
  | cons j rest =>
      obtain ⟨chains, taken, beyond, same⟩ := layout.takeFree_cons
      rw [taken] at found
      cases found
      exact ⟨rest, rfl, beyond, layout.queued_congr beyond fun j _ => same j⟩

/-- No slot can be had only if none is free. -/
theorem eq_nil_of_takeFree (layout : t.Layout free queue held) (empty : t.takeFree = none) :
    free = [] := by
  cases free with
  | nil => rfl
  | cons j rest =>
      obtain ⟨chains, taken, -, -⟩ := layout.takeFree_cons
      cases empty.symm.trans taken

/-- What is taken from the queue is its head, with the oldest request. -/
theorem of_takeHead (layout : t.Layout free queue held) (found : t.takeHead = some (i, u)) :
    ∃ rest, queue = i :: rest ∧ u.Layout free rest (i :: held)
      ∧ t.queued = (u.slot i).contents :: u.queued := by
  cases queue with
  | nil =>
      rw [layout.takeHead_nil] at found
      cases found
  | cons j rest =>
      obtain ⟨chains, taken, beyond, same⟩ := layout.takeHead_cons
      rw [taken] at found
      cases found
      refine ⟨rest, rfl, beyond, ?_⟩
      rw [layout.queued_eq, beyond.queued_eq, List.map_cons]
      simp only [same]

end Chains.Layout

namespace Intake

variable {intake after : Intake} {i : SlotId} {request : Submission}
  {free queue held : List SlotId}

/-! ### Slots -/

theorem reserve?_eq_none_iff : intake.reserve? = none ↔ intake.chains.takeFree = none := by
  unfold reserve?
  split
  · next empty => simp [empty]
  · next j chains found => simp [found]

/-- A slot that is reserved is taken from the free ones, and nothing else changes. -/
theorem reserve?_eq_some_iff :
    intake.reserve? = some (i, after) ↔
      ∃ chains, intake.chains.takeFree = some (i, chains)
        ∧ after = { intake with chains := chains } := by
  unfold reserve?
  split
  · next empty => simp [empty]
  · next j chains found => simp [found, eq_comm]

/-- What is pulled is the slot at the head of the queue, with the request in it. -/
theorem pull?_eq_some_iff :
    intake.pull? = some (i, request, after) ↔
      ∃ chains, intake.chains.takeHead = some (i, chains)
        ∧ request = (chains.slot i).contents
        ∧ after = { intake with chains := chains } := by
  unfold pull?
  split
  · next empty => simp [empty]
  · next j chains found =>
      simp only [found, Option.some.injEq, Prod.mk.injEq]
      constructor
      · rintro ⟨rfl, rfl, rfl⟩
        exact ⟨chains, ⟨rfl, rfl⟩, rfl, rfl⟩
      · rintro ⟨chains, ⟨rfl, rfl⟩, rfl, rfl⟩
        exact ⟨rfl, rfl, rfl⟩

/-- Nothing can be pulled only if nothing is queued. -/
theorem pull?_eq_none_iff (layout : intake.chains.Layout free queue held) :
    intake.pull? = none ↔ queue = [] := by
  cases queue with
  | nil => simp [pull?, layout.takeHead_nil]
  | cons j rest =>
      obtain ⟨chains, taken, -, -⟩ := layout.takeHead_cons
      simp [pull?, taken]

/-- A slot that is given back is free. -/
theorem layout_vacate (layout : intake.chains.Layout free queue (i :: held)) :
    (intake.vacate i).chains.Layout (i :: free) queue held :=
  layout.putFree

theorem queued_vacate (layout : intake.chains.Layout free queue (i :: held)) :
    (intake.vacate i).chains.queued = intake.chains.queued :=
  layout.queued_congr layout.putFree fun j _ => Chains.contents_putFree intake.chains i j

/-- Copying a request into a slot leaves it where it is. -/
theorem layout_copyIn (layout : intake.chains.Layout free queue held) :
    (intake.copyIn i request).chains.Layout free queue held :=
  layout.fill i request

/-- A slot in somebody's hands can be written to without the queue changing. -/
theorem queued_copyIn (layout : intake.chains.Layout free queue (i :: held)) :
    (intake.copyIn i request).chains.queued = intake.chains.queued :=
  layout.queued_fill request

/-- A slot that is enlisted is at the end of the queue. -/
theorem layout_enlist (layout : intake.chains.Layout free queue (i :: held)) :
    (intake.enlist i).chains.Layout free (queue ++ [i]) held :=
  layout.append

/-! ### Units -/

/-- A unit cannot be announced only if there are as many as there may be. -/
theorem announce?_eq_none_iff :
    intake.announce? = none ↔ intake.pending.max ≤ intake.pending.count := by
  rw [← Semaphore.release?_eq_none_iff]
  unfold announce?
  split
  · next full => simp [full]
  · next pending room => simp [room]

theorem announce?_eq_some_iff :
    intake.announce? = some after ↔ intake.pending.count < intake.pending.max
      ∧ after = { intake with
        pending := { intake.pending with count := intake.pending.count + 1 } } := by
  unfold announce?
  split
  · next full =>
      rw [Semaphore.release?_eq_none_iff] at full
      simp [Nat.not_lt.2 full]
  · next pending released =>
      obtain ⟨room, rfl⟩ := Semaphore.release?_eq_some_iff.1 released
      simp [room, eq_comm]

end Intake

end AttachService
