/-
Module: AttachService.Relay
Purpose: Turning attach requests that arrive from outside into submissions.
Trusted boundary: none
Main exports: Arrival, Relay, Relay.submission, Relay.receive, Relay.stop
-/
import AttachService.Intake.Submit
import AttachService.Notice

namespace AttachService

/-!
The relay listens until its stream of arrivals ends or it is stopped.  Each channel name
that arrives is handed in by a producer of its own as a version 2 request without command
and arguments, since these are on the channel.  Nobody waits for such a producer: a refusal
is only reported.
-/

/-- What arrives at the relay. -/
inductive Arrival where
  /-- A request whose channel has this name. -/
  | request (channel : String)
  /-- Listening failed, but goes on. -/
  | failure (words : String)
deriving Repr, Inhabited, DecidableEq

/-- An intake to which arrivals are relayed while the relay listens. -/
structure Relay where
  intake : Intake
  listening : Bool := true
deriving Repr, DecidableEq

namespace Relay

/-- The request that a producer hands in for a channel. -/
def submission (channel : String) : Submission where
  version := Version.v2.number
  name := ""
  args := Vector.replicate _ ""
  channel := channel

/-- What a producer does for a channel. -/
def produce (intake : Intake) (channel : String) : Intake × List Event :=
  match intake.submit (submission channel) with
  | (.ok (), intake) => (intake, [])
  | (.error refusal, intake) => (intake, [.notice (.refused channel refusal)])

/-- Deal with an arrival.  Says whether the relay was there to take it. -/
def receive (relay : Relay) (arrival : Arrival) : Bool × Relay × List Event :=
  if relay.listening then
    match arrival with
    | .request channel =>
        let (intake, events) := produce relay.intake channel
        (true, { relay with intake := intake }, events)
    | .failure words => (true, relay, [.notice (.signalFailed words)])
  else
    (false, relay, [])

/-- Stop listening, because the stream has ended or somebody wants it to. -/
def stop (relay : Relay) : Relay := { relay with listening := false }

/-- Start a relay.  Nothing if listening cannot even be set up. -/
def start (intake : Intake) (canListen : Bool) : Except Fault Relay :=
  if canListen then .ok { intake := intake }
  else .error ⟨.other, "attach trigger panicked"⟩

end Relay

end AttachService
