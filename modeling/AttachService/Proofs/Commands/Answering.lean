/-
Module: AttachService.Proofs.Commands.Answering
Purpose: What is written on the channel of a job that is answered, also where that fails.
Trusted boundary: none
Main exports: Job.Answered, Job.answered_complete
-/
import AttachService.Proofs.Commands.Completing

namespace AttachService.Job

variable {job : Job} {reply : Reply} {channel : Channel}

/-- The channel of the job after an attempt to send this reply on it. -/
structure Answered (job : Job) (reply : Reply) (channel : Channel) : Prop where
  own : channel.id = job.channel.id
  /-- Nothing but a front of the reply was written. -/
  front : ∃ front, front <+: reply.layout
    ∧ channel.sink.written = job.channel.sink.written ++ front
  /-- All of it was, unless the attempt failed. -/
  whole : (deliver reply job.channel.sink).1 = .ok () →
    channel.sink.written = job.channel.sink.written ++ reply.layout
  reliable : job.channel.sink.Reliable →
    channel.sink.written = job.channel.sink.written ++ reply.layout
  once : channel.sink.closes = job.channel.sink.closes + 1

/-- A job that is completed with a reply is answered with it, as far as its channel goes along. -/
theorem answered_complete (job : Job) (reply : Reply) :
    job.Answered reply (job.complete reply).1 := by
  obtain ⟨front, fills, delivers⟩ := deliver_fills reply job.channel.sink
  have sink : (job.complete reply).1.sink = (delivered reply job.channel.sink front).close.2 := by
    rw [complete, delivers]
  have written : (job.complete reply).1.sink.written = job.channel.sink.written ++ front := by
    rw [sink, Sink.written_close, written_delivered]
  refine ⟨rfl, ⟨front, fills.ahead, written⟩, fun done => ?_, fun reliable => ?_, ?_⟩
  · by_cases whole : front = reply.layout
    · rw [written, whole]
    · rw [delivers, mishap?, if_neg whole] at done
      cases done
  · rw [written, fills.eq_iff.2 (reliable.accepts reply.layout)]
  · rw [sink, Sink.closes_close, closes_delivered]

end AttachService.Job
