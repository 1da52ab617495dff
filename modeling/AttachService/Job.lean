/-
Module: AttachService.Job
Purpose: A request whose turn has come, with the open channel its reply goes to.
Trusted boundary: none
Main exports: Job, Job.arg, Job.complete
-/
import AttachService.Notice
import AttachService.Stream.Channel
import AttachService.Wire.Reply

namespace AttachService

/-- A command with its arguments, and the channel for the reply. -/
structure Job where
  name : String
  args : List String
  channel : Channel
deriving Repr, Inhabited, DecidableEq

namespace Job

/-- Argument `i`, empty when the request has none. -/
def arg (job : Job) (i : Nat) : String := (job.args[i]?).getD ""

/-- Write a reply and flush it. -/
def deliver (reply : Reply) (sink : Sink) : Except Flaw Unit × Sink :=
  match reply.write sink with
  | (.error flaw, sink) => (.error flaw, sink)
  | (.ok (), sink) =>
      match sink.flush with
      | (.error fault, sink) => (.error (.io fault), sink)
      | (.ok (), sink) => (.ok (), sink)

/-- Answer a job: deliver the reply, then close the channel whether or not that worked.
Failures are only reported, since nobody is left to be told. -/
def complete (job : Job) (reply : Reply) : Channel × List Notice :=
  let (delivered, sink) := deliver reply job.channel.sink
  let (closed, sink) := sink.close
  let replyNotices := match delivered with
    | .ok () => []
    | .error flaw => [.replyFailed job.name flaw]
  let closeNotices := match closed with
    | .ok () => []
    | .error fault => [.closeFailed job.name fault]
  ({ job.channel with sink := sink }, replyNotices ++ closeNotices)

end Job

end AttachService
