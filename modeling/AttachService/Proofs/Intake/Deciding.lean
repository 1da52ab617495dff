/-
Module: AttachService.Proofs.Intake.Deciding
Purpose: What a producer is told, in the order in which the obstacles count, and what it leaves.
Trusted boundary: none
Main exports: Submission.Unacceptable, Intake.Enlisted, Intake.Orderly.handIn, Intake.Decided,
  Intake.decided_submitSeeing, Intake.submitSeeing_eq_illegal_iff
-/
import AttachService.Proofs.Intake.Orderly

namespace AttachService

variable {channelPrefix : String} {s : Submission}

/-! ### Requests -/

/-- A field of the request is too long for its buffer, or its channel is not one of the
service's. -/
inductive Submission.Unacceptable (channelPrefix : String) (s : Submission) : Prop where
  | longName (long : Limits.nameBytes < s.name.utf8ByteSize)
  | longArgument {arg : String} (member : arg ∈ s.args.toList)
      (long : Limits.argumentBytes < arg.utf8ByteSize)
  | longChannel (long : Limits.channelBytes < s.channel.utf8ByteSize)
  | foreign (outside : ¬ channelPrefix.toList <+: s.channel.toList)

/-- A request that is not acceptable exceeds some bound, or has a channel that it may not have. -/
theorem Submission.not_acceptable_iff :
    ¬ s.Acceptable channelPrefix ↔ s.Unacceptable channelPrefix := by
  constructor
  · intro flawed
    by_contra sound
    apply flawed
    refine ⟨⟨?_, ?_, ?_⟩, ?_⟩
    · exact Nat.le_of_not_lt fun long => sound (.longName long)
    · intro arg member
      exact Nat.le_of_not_lt fun long => sound (.longArgument member long)
    · exact Nat.le_of_not_lt fun long => sound (.longChannel long)
    · exact Decidable.of_not_not fun outside => sound (.foreign outside)
  · rintro flawed ⟨⟨name, args, channel⟩, front⟩
    cases flawed with
    | longName long => exact Nat.not_lt.2 name long
    | longArgument member long => exact Nat.not_lt.2 (args _ member) long
    | longChannel long => exact Nat.not_lt.2 channel long
    | foreign outside => exact outside front

namespace Intake

variable {intake after : Intake} {sees : Nat → Bool} {i : SlotId} {free queue held : List SlotId}

/-! ### Looking for readiness -/

/-- The intake was seen ready at one of the looks that its settings allow. -/
def Seen (intake : Intake) (sees : Nat → Bool) : Prop :=
  ∃ look ≤ intake.settings.pollAttempts, sees look = true

/-- Waiting succeeds if any of the looks, the one after the last sleep among them, finds the
intake ready. -/
theorem awaitReady_eq_true_iff {sleeps : Nat} :
    awaitReady sees sleeps = true ↔ ∃ look ≤ sleeps, sees look = true := by
  induction sleeps generalizing sees with
  | zero =>
      constructor
      · exact fun ready => ⟨0, Nat.le_refl 0, ready⟩
      · rintro ⟨look, bound, ready⟩
        obtain rfl := Nat.le_zero.1 bound
        exact ready
  | succ sleeps ih =>
      rw [awaitReady, Bool.or_eq_true, ih]
      constructor
      · rintro (ready | ⟨look, bound, ready⟩)
        · exact ⟨0, Nat.zero_le _, ready⟩
        · exact ⟨look + 1, Nat.succ_le_succ bound, ready⟩
      · rintro ⟨look, bound, ready⟩
        cases look with
        | zero => exact .inl ready
        | succ look => exact .inr ⟨look, Nat.le_of_succ_le_succ bound, ready⟩

/-! ### Behind the lock -/

/-- The top of the pool has become the last slot of the queue and holds the request, and there
is one more unit.  Nothing else has changed. -/
structure Enlisted (intake after : Intake) (s : Submission) : Prop where
  moved : ∃ i, intake.chains.freeChain = i :: after.chains.freeChain
    ∧ after.chains.queueChain = intake.chains.queueChain ++ [i]
    ∧ (after.chains.slot i).contents = s
    ∧ ∀ j ≠ i, (after.chains.slot j).contents = (intake.chains.slot j).contents
  same : after = { intake with
    chains := after.chains
    pending := { intake.pending with count := intake.pending.count + 1 } }

/-- Readiness is checked again under the lock. -/
theorem accept_of_unready (unready : intake.ready = false) (s : Submission) :
    intake.accept s = (.error .disabled, intake) := by
  simp [accept, unready]

/-- Without a free slot a request is refused, and nothing changes. -/
theorem accept_of_exhausted (ready : intake.ready = true)
    (empty : intake.chains.takeFree = none) (s : Submission) :
    intake.accept s = (.error .exhausted, intake) := by
  simp [accept, ready, reserve?_eq_none_iff.2 empty]

/-- Behind the lock, a request is no longer judged. -/
theorem accept_ne_illegal (intake : Intake) (s : Submission) :
    (intake.accept s).1 ≠ .error .illegal := by
  unfold accept
  split
  · nofun
  · split
    · nofun
    · split
      · nofun
      · nofun

/-- What accepting a request comes to, slot and unit, when both are to be had. -/
theorem accept_of_free {chains : Chains} (ready : intake.ready = true)
    (found : intake.chains.takeFree = some (i, chains))
    (room : intake.pending.count < intake.pending.max) (s : Submission) :
    intake.accept s = (.ok (), { intake with
      chains := (chains.fill i s).2.append i
      pending := { intake.pending with count := intake.pending.count + 1 } }) := by
  have reserved : intake.reserve? = some (i, { intake with chains := chains }) :=
    reserve?_eq_some_iff.2 ⟨chains, found, rfl⟩
  have announced : Intake.announce? { intake with chains := chains } = some _ :=
    announce?_eq_some_iff.2 ⟨room, rfl⟩
  rw [accept, if_neg (not_not_intro ready), reserved]
  dsimp only
  rw [announced]
  rfl

/-- With a free slot and room for a unit, the request goes to the end of the queue. -/
theorem enlisted_accept {chains : Chains} (layout : intake.chains.Layout (i :: free) queue held)
    (ready : intake.ready = true) (found : intake.chains.takeFree = some (i, chains))
    (room : intake.pending.count < intake.pending.max) (fits : s.Fits) :
    ∃ after, intake.accept s = (.ok (), after) ∧ intake.Enlisted after s
      ∧ after.chains.Layout free (queue ++ [i]) held
      ∧ after.chains.queued = intake.chains.queued ++ [s] := by
  rw [accept_of_free ready found room]
  obtain ⟨taken, top, beyond, same⟩ := layout.takeFree_cons
  cases top.symm.trans found
  have filled := beyond.fill i s
  have enlisted := filled.append
  have held : ((chains.fill i s).2.slot i).contents = s := Chains.contents_fill_self chains i fits
  refine ⟨_, rfl, ⟨⟨i, ?_, ?_, ?_, ?_⟩, rfl⟩, enlisted, ?_⟩
  · rw [layout.freeChain_eq, enlisted.freeChain_eq]
  · rw [layout.queueChain_eq, enlisted.queueChain_eq]
  · rw [Chains.contents_append, held]
  · intro k other
    rw [Chains.contents_append, Chains.contents_fill_of_ne chains s other, same]
  · rw [filled.queued_append, held, beyond.queued_fill,
      layout.queued_congr beyond fun j _ => same j]

/-- At an intake where nobody is, a request that is in order is queued as long as a slot is
free. -/
theorem Orderly.handIn {lost : List SlotId} (orderly : intake.Orderly lost)
    (ready : intake.ready = true) (sane : intake.poisoned = false)
    (idle : intake.chains.freeChain ≠ [])
    (acceptable : s.Acceptable intake.settings.channelPrefix) :
    ∃ after, intake.handIn s = (.ok (), after) ∧ intake.Enlisted after s ∧ after.Orderly lost
      ∧ after.chains.queued = intake.chains.queued ++ [s] := by
  have room := orderly.room idle
  have layout := orderly.places
  obtain ⟨i, free, chain⟩ := List.exists_cons_of_ne_nil idle
  rw [chain] at layout
  obtain ⟨chains, found, -, -⟩ := layout.takeFree_cons
  obtain ⟨after, accepts, enlisted, places, queued⟩ :=
    enlisted_accept layout ready found room acceptable.1
  have unpoisoned : ¬ intake.poisoned = true := by simp [sane]
  refine ⟨after, ?_, enlisted, ?_, queued⟩
  · rw [Intake.handIn, if_neg (not_not_intro acceptable), if_neg unpoisoned, accepts]
  · refine orderly_of_layout places ?_ ?_
    · rw [enlisted.same, List.length_append, List.length_singleton, ← queuedCount, ← orderly.units]
    · rw [enlisted.same]
      exact orderly.bound

/-! ### All obstacles -/

/-- What a producer is told that sees this at its looks, and the intake as it leaves it.  The
constructors stand in the order in which the obstacles count. -/
inductive Decided (intake : Intake) (sees : Nat → Bool) (s : Submission) :
    Except Refusal Unit → Intake → Prop where
  | unseen (never : ∀ look ≤ intake.settings.pollAttempts, sees look = false) :
      Decided intake sees s (.error .disabled) intake
  | illegal (seen : intake.Seen sees) (flawed : s.Unacceptable intake.settings.channelPrefix) :
      Decided intake sees s (.error .illegal) intake
  | broken (seen : intake.Seen sees) (acceptable : s.Acceptable intake.settings.channelPrefix)
      (poisoned : intake.poisoned = true) :
      Decided intake sees s (.error .broken) intake
  /-- It was ready when it was seen, and is no longer. -/
  | withdrawn (seen : intake.Seen sees) (acceptable : s.Acceptable intake.settings.channelPrefix)
      (sane : intake.poisoned = false) (unready : intake.ready = false) :
      Decided intake sees s (.error .disabled) intake
  | exhausted (seen : intake.Seen sees) (acceptable : s.Acceptable intake.settings.channelPrefix)
      (sane : intake.poisoned = false) (ready : intake.ready = true)
      (empty : intake.chains.freeChain = []) :
      Decided intake sees s (.error .exhausted) intake
  | accepted {after : Intake} (seen : intake.Seen sees)
      (acceptable : s.Acceptable intake.settings.channelPrefix)
      (sane : intake.poisoned = false) (ready : intake.ready = true)
      (enlisted : intake.Enlisted after s) : Decided intake sees s (.ok ()) after

/-- Whatever a producer sees while it waits, its answer and what it leaves behind belong
together. -/
theorem decided_submitSeeing (layout : intake.chains.Layout free queue held)
    (room : free ≠ [] → intake.pending.count < intake.pending.max) (sees : Nat → Bool)
    (s : Submission) :
    intake.Decided sees s (intake.submitSeeing sees s).1 (intake.submitSeeing sees s).2 := by
  unfold submitSeeing
  split
  · next awaited =>
      have seen : intake.Seen sees := awaitReady_eq_true_iff.1 awaited
      unfold handIn
      split
      · next flawed => exact .illegal seen (Submission.not_acceptable_iff.1 flawed)
      · next sound =>
          have acceptable := Decidable.of_not_not sound
          split
          · next poisoned => exact .broken seen acceptable poisoned
          · next sane =>
              rw [Bool.not_eq_true] at sane
              cases ready : intake.ready with
              | false =>
                  rw [accept_of_unready ready]
                  exact .withdrawn seen acceptable sane ready
              | true =>
                  cases found : intake.chains.takeFree with
                  | none =>
                      rw [accept_of_exhausted ready found]
                      refine .exhausted seen acceptable sane ready ?_
                      rw [layout.freeChain_eq]
                      exact layout.eq_nil_of_takeFree found
                  | some top =>
                      obtain ⟨i, chains⟩ := top
                      obtain ⟨rest, rfl, -, -⟩ := layout.of_takeFree found
                      obtain ⟨after, accepts, enlisted, -, -⟩ := enlisted_accept layout ready found
                        (room (List.cons_ne_nil i rest)) acceptable.1
                      rw [accepts]
                      exact .accepted seen acceptable sane ready enlisted
  · next unawaited =>
      refine .unseen fun look bound => ?_
      rw [← Bool.not_eq_true]
      exact fun ready => unawaited (awaitReady_eq_true_iff.2 ⟨look, bound, ready⟩)

/-- Whoever finds the intake ready is told of an illegal argument if there is one, and only
then. -/
theorem submitSeeing_eq_illegal_iff :
    (intake.submitSeeing sees s).1 = .error .illegal
      ↔ intake.Seen sees ∧ ¬ s.Acceptable intake.settings.channelPrefix := by
  rw [Seen, ← awaitReady_eq_true_iff]
  unfold submitSeeing
  split
  · next awaited =>
      unfold handIn
      split
      · next flawed => simp [awaited, flawed]
      · next sound =>
          split
          · simp [sound]
          · simp [sound, accept_ne_illegal]
  · next unawaited => simp [unawaited]

end Intake

end AttachService
