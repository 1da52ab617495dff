/-
Module: AttachService.Desk
Purpose: Producers and one consumer at an intake, taking turns.
Trusted boundary: none
Main exports: Desk, Desk.take, Desk.wake, Desk.submitPatiently, Desk.markReady, Desk.shutDown
-/
import AttachService.Intake.Next
import AttachService.Intake.Submit

namespace AttachService

/-!
At a desk only one party moves at a time, and every move is carried through as far as it
goes.  A consumer that finds nothing sleeps; whatever adds a request or closes the intake
lets it go on.  A patient producer sleeps until the readiness of the intake changes, or until
it has waited as long as a producer does.
-/

/-- An intake, the world its channels live in, and who sleeps. -/
structure Desk (world : Type) where
  intake : Intake
  outside : world
  consumerSleeps : Bool := false
  /-- The requests of patient producers that still wait. -/
  patient : List Submission := []
  /-- The answers to patient producers that nobody has asked for yet. -/
  answers : List (Except Refusal Unit) := []

namespace Desk

variable {world : Type} [Transport world]

/-- Let the consumer go on from where it looks for a job.  If it comes back without an
answer it sleeps. -/
def proceed (d : Desk world) : Option Turn × Desk world × List Event :=
  let (turn, intake, outside, events) := d.intake.next d.outside
  match turn with
  | .waiting =>
      (none, { d with intake := intake, outside := outside, consumerSleeps := true }, events)
  | turn =>
      (some turn, { d with intake := intake, outside := outside, consumerSleeps := false },
        events)

/-- Let the consumer ask for a job.  Only one consumer asks at a time. -/
def take (d : Desk world) : Option (Option Turn × Desk world × List Event) :=
  if d.consumerSleeps then none else some d.proceed

/-- Let a sleeping consumer look again. -/
def wake (d : Desk world) : Option Turn × Desk world × List Event :=
  if d.consumerSleeps then d.proceed else (none, d, [])

/-- A producer has waited in vain.  All wait equally long, so the patient ones, who came
before it, have given up by then. -/
def outwait (d : Desk world) : Desk world :=
  { d with
    patient := []
    answers := d.answers ++ d.patient.map fun _ => .error .disabled }

/-- Hand in a request. -/
def submit (d : Desk world) (s : Submission) : Except Refusal Unit × Desk world :=
  let (answer, intake) := d.intake.submit s
  let after := { d with intake := intake }
  (answer, if d.intake.ready then after else after.outwait)

/-- Hand in requests one after the other. -/
def submitAll (d : Desk world) : List Submission → List (Except Refusal Unit) × Desk world
  | [] => ([], d)
  | s :: rest =>
      let (answer, d) := d.submit s
      let (answers, d) := submitAll d rest
      (answer :: answers, d)

/-- Hand in a request for a producer that has the time to wait for readiness.  Its answer
is there as soon as it has something to go by. -/
def submitPatiently (d : Desk world) (s : Submission) : Desk world :=
  let patience := d.intake.settings.pollAttempts * d.intake.settings.pollMillis
  if ¬ d.intake.ready ∧ 0 < patience then { d with patient := d.patient ++ [s] }
  else
    let (answer, d) := d.submit s
    { d with answers := d.answers ++ [answer] }

/-- Let the patient producers look at readiness again, and collect all answers. -/
def answer (d : Desk world) : List (Except Refusal Unit) × Desk world :=
  let (answers, after) := { d with patient := [] }.submitAll d.patient
  (d.answers ++ answers, { after with answers := [] })

/-- The consumer's side becomes ready.  Gives the answers of patient producers. -/
def markReady (d : Desk world) : List (Except Refusal Unit) × Desk world :=
  { d with intake := d.intake.markReady }.answer

/-- The intake shuts down.  Gives the answers of patient producers. -/
def shutDown (d : Desk world) : List (Except Refusal Unit) × Desk world :=
  { d with intake := d.intake.shutDown }.answer

/-- The consumer dies with a request in its hands.  Nothing if it sleeps or there is none. -/
def dieTaking (d : Desk world) : Option (Desk world) :=
  if d.consumerSleeps then none
  else d.intake.dieTaking.map fun intake => { d with intake := intake }

/-- Answer a job and give its channel back. -/
def complete (d : Desk world) (job : Job) (reply : Reply) : Desk world × List Event :=
  let (channel, notices) := job.complete reply
  ({ d with outside := Transport.giveBack d.outside channel }, notices.map .notice)

/-- Give the channel of a job back without an answer. -/
def abandon (d : Desk world) (job : Job) : Desk world :=
  { d with outside := Transport.giveBack d.outside job.channel }

end Desk

end AttachService
