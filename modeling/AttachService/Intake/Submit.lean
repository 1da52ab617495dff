/-
Module: AttachService.Intake.Submit
Purpose: How a producer hands in a request, and when it is refused.
Trusted boundary: none
Main exports: Submission.Acceptable, Intake.awaitReady, Intake.accept, Intake.handIn,
  Intake.submitSeeing, Intake.submit, Intake.submitCode
-/
import AttachService.Intake.Basic
import AttachService.Refusal

namespace AttachService

/-!
A producer first waits until the intake is ready, looking again and again but not for ever.
Then the request is checked, the lock is taken, readiness is checked once more, and the
request goes into a free slot and to the end of the queue.  The first obstacle on this way
is the refusal; no refusal leaves a trace.
-/

/-- A request that fits a slot and names a channel of this service. -/
def Submission.Acceptable (channelPrefix : String) (s : Submission) : Prop :=
  s.Fits ∧ channelPrefix.toList <+: s.channel.toList

instance (channelPrefix : String) (s : Submission) : Decidable (s.Acceptable channelPrefix) := by
  unfold Submission.Acceptable
  infer_instance

namespace Intake

/-- Whether a producer ever finds the intake ready, given what it sees at each look: it
sleeps `sleeps` times, so it looks once more than that. -/
def awaitReady (sees : Nat → Bool) : (sleeps : Nat) → Bool
  | 0 => sees 0
  | sleeps + 1 => sees 0 || awaitReady (fun look => sees (look + 1)) sleeps

/-- Take a free slot, if there is one. -/
def reserve? (intake : Intake) : Option (SlotId × Intake) :=
  match intake.chains.takeFree with
  | none => none
  | some (i, chains) => some (i, { intake with chains := chains })

/-- Tell the consumer that there is one more request, if the semaphore has room for it. -/
def announce? (intake : Intake) : Option Intake :=
  match intake.pending.release? with
  | none => none
  | some pending => some { intake with pending := pending }

/-- Copy a request into a held slot.  It was checked before, so it fits. -/
def copyIn (intake : Intake) (i : SlotId) (s : Submission) : Intake :=
  { intake with chains := (intake.chains.fill i s).2 }

/-- Put a held slot at the end of the queue. -/
def enlist (intake : Intake) (i : SlotId) : Intake :=
  { intake with chains := intake.chains.append i }

/-- What a producer does once it holds the lock. -/
def accept (intake : Intake) (s : Submission) : Except Refusal Unit × Intake :=
  if ¬ intake.ready then (.error .disabled, intake)
  else
    match intake.reserve? with
    | none => (.error .exhausted, intake)
    | some (i, reserved) =>
        match reserved.announce? with
        | none => (.error .broken, reserved.vacate i)
        | some announced => (.ok (), (announced.copyIn i s).enlist i)

/-- What a producer does once it has found the intake ready. -/
def handIn (intake : Intake) (s : Submission) : Except Refusal Unit × Intake :=
  if ¬ s.Acceptable intake.settings.channelPrefix then (.error .illegal, intake)
  else if intake.poisoned then (.error .broken, intake)
  else intake.accept s

/-- Hand in a request, given what the producer sees at each look for readiness and the intake
as it is after the last one. -/
def submitSeeing (intake : Intake) (sees : Nat → Bool) (s : Submission) :
    Except Refusal Unit × Intake :=
  if awaitReady sees intake.settings.pollAttempts then intake.handIn s
  else (.error .disabled, intake)

/-- Hand in a request, while nobody else touches the intake.  Then one look tells as much as
all of them. -/
def submit (intake : Intake) (s : Submission) : Except Refusal Unit × Intake :=
  if intake.ready then intake.handIn s else (.error .disabled, intake)

/-- Who always sees the same need not look twice. -/
theorem awaitReady_const (b : Bool) (sleeps : Nat) :
    awaitReady (fun _ => b) sleeps = b := by
  induction sleeps with
  | zero => rfl
  | succ sleeps ih => rw [awaitReady, ih, Bool.or_self]

/-- Handing in is undisturbed when every look shows the intake as it is. -/
theorem submit_eq_submitSeeing (intake : Intake) (s : Submission) :
    intake.submit s = intake.submitSeeing (fun _ => intake.ready) s := by
  rw [submit, submitSeeing, awaitReady_const]

/-- Hand in a request for a producer that takes a number for an answer: zero if the request
was accepted, the code of the refusal otherwise. -/
def submitCode (intake : Intake) (s : Submission) : Int32 × Intake :=
  match intake.submit s with
  | (.ok (), intake) => (0, intake)
  | (.error refusal, intake) => (refusal.code, intake)

end Intake

end AttachService
