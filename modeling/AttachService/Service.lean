/-
Module: AttachService.Service
Purpose: The consumer thread: it serves jobs until the intake is shut down or it dies.
Trusted boundary: none
Main exports: Consumer, Service, Service.start, Service.run, Service.stop
-/
import AttachService.Commands.Table
import AttachService.Intake.Next
import AttachService.Intake.Submit

namespace AttachService

/-!
The consumer thread makes the intake ready, then serves one job after the other.  However
it ends, it shuts the intake down on its way out, so that no request is accepted that
nobody would serve.
-/

/-- Where the consumer thread is. -/
inductive Consumer where
  | running
  /-- It has returned. -/
  | finished
  /-- It was taken down, and nobody has noticed yet. -/
  | dead
  /-- It was taken down, and that has been reported. -/
  | buried
deriving Repr, Inhabited, DecidableEq

/-- An intake whose jobs are served. -/
structure Service (world : Type) where
  intake : Intake
  outside : world
  commands : CommandTable
  consumer : Consumer

namespace Service

/-- Start the consumer thread.  A thread cannot have a name with a NUL in it. -/
def start {world : Type} (intake : Intake) (outside : world) (commands : CommandTable) :
    Option (Service world) :=
  if '\x00' ∈ intake.settings.threadName.toList then none
  else
    some {
      intake := intake.markReady
      outside := outside
      commands := commands
      consumer := .running }

variable {world : Type} [Transport world]

/-- Serve a job. -/
def serve (s : Service world) (job : Job) : Service world × List Event :=
  let (channel, notices) := s.commands.serve job
  ({ s with outside := Transport.giveBack s.outside channel }, notices.map .notice)

/-- End the consumer thread, shutting the intake down. -/
def leave (s : Service world) (consumer : Consumer) : Service world :=
  { s with intake := s.intake.shutDown, consumer := consumer }

/-- Let the consumer thread serve at most so many jobs, until it sleeps or ends. -/
def serveUpTo : (jobs : Nat) → Service world → Service world × List Event
  | 0, s => (s, [])
  | jobs + 1, s =>
      match s.intake.next s.outside with
      | (turn, intake, outside, events) =>
          let s := { s with intake := intake, outside := outside }
          match turn with
          | .waiting => (s, events)
          | .closed => (s.leave .finished, events)
          | .panicked => (s.leave .dead, events)
          | .job job =>
              let (s, served) := s.serve job
              let (s, more) := serveUpTo jobs s
              (s, events ++ served ++ more)

/-- Let the consumer thread go on until it sleeps or ends.  There is a unit of the semaphore
for each job, and one more round finds that there is no other. -/
def run (s : Service world) : Service world × List Event :=
  match s.consumer with
  | .running => serveUpTo (s.intake.pending.count + 1) s
  | _ => (s, [])

/-- Shut down, let the consumer thread finish, and report it if it was taken down. -/
def stop (s : Service world) : Service world × List Event :=
  let (s, events) := { s with intake := s.intake.shutDown }.run
  match s.consumer with
  | .dead => ({ s with consumer := .buried }, events ++ [.notice .consumerPanicked])
  | _ => (s, events)

/-- Hand in a request, and let the consumer thread deal with it. -/
def submit (s : Service world) (request : Submission) :
    Except Refusal Unit × Service world × List Event :=
  let (answer, intake) := s.intake.submit request
  let (s, events) := { s with intake := intake }.run
  (answer, s, events)

end Service

end AttachService
