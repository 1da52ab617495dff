/-
Module: AttachService.Proofs.Intake.Orderly
Purpose: An intake that nobody is at, and what taking the oldest request from it comes to.
Trusted boundary: none
Main exports: Intake.Orderly, Intake.Keeps, Intake.Orderly.acquire_nil,
  Intake.Orderly.takeQueued_cons
-/
import AttachService.Proofs.Intake.Handling

namespace AttachService.Intake

variable {intake after later : Intake} {free queue lost : List SlotId} {request : Submission}
  {rest : List Submission}

/-- The chains are in order, and there is one unit for every queued request.  The lost slots
are on neither chain. -/
structure Orderly (intake : Intake) (lost : List SlotId) : Prop where
  places : intake.chains.Layout intake.chains.freeChain intake.chains.queueChain lost
  units : intake.pending.count = intake.queuedCount
  bound : intake.pending.max = Limits.slots

/-- Nothing but the slots, their chains and the number of units has changed. -/
def Keeps (intake after : Intake) : Prop :=
  after = { intake with
    chains := after.chains
    pending := { intake.pending with count := after.pending.count } }

theorem Keeps.refl (intake : Intake) : intake.Keeps intake := rfl

theorem Keeps.trans (first : intake.Keeps after) (second : after.Keeps later) :
    intake.Keeps later := by
  unfold Keeps at *
  rw [second, first]

/-- Settings are not among what may change. -/
theorem Keeps.settings_eq (keeps : intake.Keeps after) : after.settings = intake.settings := by
  rw [keeps]

/-- What is kept of an intake says whether its semaphore is closed. -/
theorem Keeps.closed_eq (keeps : intake.Keeps after) :
    after.pending.closed = intake.pending.closed := by
  rw [keeps]

/-- An intake whose slots are laid out somehow is in order if the units agree with the queue. -/
theorem orderly_of_layout (layout : intake.chains.Layout free queue lost)
    (units : intake.pending.count = queue.length) (bound : intake.pending.max = Limits.slots) :
    intake.Orderly lost where
  places := by
    rw [layout.freeChain_eq, layout.queueChain_eq]
    exact layout
  units := by rw [units, queuedCount, layout.queueChain_eq]
  bound := bound

namespace Orderly

/-- What is queued is what is in the slots of the queue. -/
theorem queued_eq (orderly : intake.Orderly lost) :
    intake.chains.queued
      = intake.chains.queueChain.map fun i => (intake.chains.slot i).contents :=
  orderly.places.queued_eq

/-- There are as many queued requests as slots that hold one. -/
theorem length_queued (orderly : intake.Orderly lost) :
    intake.chains.queued.length = intake.queuedCount := by
  rw [orderly.queued_eq, List.length_map]
  rfl

/-- Every slot is free, queued or lost. -/
theorem length_eq (orderly : intake.Orderly lost) :
    intake.freeCount + intake.queuedCount + lost.length = Limits.slots :=
  orderly.places.length_eq

/-- The semaphore has room for a request as long as a slot is free. -/
theorem room (orderly : intake.Orderly lost) (idle : intake.chains.freeChain ≠ []) :
    intake.pending.count < intake.pending.max := by
  have total := orderly.places.length_eq
  have free := List.length_pos_iff.2 idle
  rw [orderly.units, orderly.bound, queuedCount]
  omega

/-- Whoever wants a unit while nothing is queued is sent home or has to wait. -/
theorem acquire_nil (orderly : intake.Orderly lost) (nothing : intake.chains.queued = []) :
    intake.pending.acquire = if intake.pending.closed then .refused else .blocked := by
  have empty := orderly.length_queued
  rw [nothing, List.length_nil, ← orderly.units] at empty
  rw [Semaphore.acquire, ← empty]

/-- While something is queued there is a unit, and whoever has it takes the oldest request;
its slot becomes the top of the pool. -/
theorem takeQueued_cons (orderly : intake.Orderly lost)
    (queued : intake.chains.queued = request :: rest) :
    ∃ pending after, intake.pending.acquire = .granted pending
      ∧ { intake with pending := pending }.takeQueued = some (request, after)
      ∧ after.Orderly lost ∧ intake.Keeps after ∧ after.chains.queued = rest
      ∧ after.freeCount = intake.freeCount + 1 := by
  have units := orderly.units
  rw [← orderly.length_queued, queued, List.length_cons] at units
  have layout := orderly.places
  obtain ⟨i, others, chain⟩ : ∃ i others, intake.chains.queueChain = i :: others := by
    apply List.exists_cons_of_length_pos
    have length := orderly.length_queued
    rw [queued, queuedCount] at length
    rw [← length]
    exact Nat.succ_pos _
  rw [chain] at layout
  obtain ⟨chains, found, pulled, same⟩ := layout.takeHead_cons
  have given : (chains.putFree i).Layout (i :: intake.chains.freeChain) others lost :=
    pulled.putFree
  have contents : (chains.slot i).contents = request
      ∧ others.map (fun j => ((chains.putFree i).slot j).contents) = rest := by
    rw [orderly.queued_eq, chain, List.map_cons] at queued
    obtain ⟨head, tail⟩ := List.cons.inj queued
    refine ⟨(same i).trans head, ?_⟩
    simp only [Chains.contents_putFree, same]
    exact tail
  obtain ⟨rfl, rfl⟩ := contents
  refine ⟨{ intake.pending with count := others.length }, { intake with
    chains := chains.putFree i
    pending := { intake.pending with count := others.length } }, ?_, ?_, ?_, rfl, ?_, ?_⟩
  · rw [List.length_map] at units
    rw [Semaphore.acquire, units]
  · simp only [takeQueued, pull?, found, vacate]
  · exact orderly_of_layout given rfl orderly.bound
  · exact given.queued_eq
  · rw [freeCount, given.freeChain_eq]
    rfl

end Orderly

end AttachService.Intake
