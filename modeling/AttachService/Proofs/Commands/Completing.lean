/-
Module: AttachService.Proofs.Commands.Completing
Purpose: A job that is completed has its channel closed once and last, whatever failed before,
  and every failure is reported once.
Trusted boundary: none
Main exports: Job.mishap?, Job.delivered, Job.deliver_fills, Job.complete_fills, Job.Completed,
  Job.closes_once_and_last
-/
import AttachService.Job
import AttachService.Proofs.Wire.Replies

namespace AttachService

/-!
A reply is two messages, a flush and a close, and each of them can fail.  As far as the bytes go,
the two messages are one: the longest front that the sink accepts goes through.  What is flushed
is a whole reply, and what is closed is whatever there is by then.
-/

namespace Job

variable {job : Job}

/-- What goes wrong with a reply of which this front goes through: the rest is refused, or all of
it is there and cannot be flushed. -/
def mishap? (reply : Reply) (sink : Sink) (front : List UInt8) : Option Fault :=
  if front = reply.layout then sink.flushFault else some (sink.accept front).obstacle

/-- The sink once such a front has gone through.  Only a whole reply is flushed. -/
def delivered (reply : Reply) (sink : Sink) (front : List UInt8) : Sink :=
  if front = reply.layout then (sink.accept front).flush.2 else sink.accept front

/-- A reply goes out up to where the sink stops taking it, and what went wrong there is what is
reported. -/
theorem deliver_fills (reply : Reply) (sink : Sink) :
    ∃ front, sink.Fills reply.layout front ∧ deliver reply sink
      = (match mishap? reply sink front with
          | none => .ok ()
          | some fault => .error (.io fault),
        delivered reply sink front) := by
  obtain ⟨front, fills, wrote⟩ := reply.write_fills sink
  refine ⟨front, fills, ?_⟩
  unfold deliver mishap? delivered
  by_cases whole : front = reply.layout
  · rw [if_pos whole] at wrote
    cases flushes : sink.flushFault with
    | none => simp [wrote, whole, Sink.flush, Sink.accept, flushes]
    | some fault => simp [wrote, whole, Sink.flush, Sink.accept, flushes]
  · rw [if_neg whole] at wrote
    simp [wrote, whole]

theorem written_delivered (reply : Reply) (sink : Sink) (front : List UInt8) :
    (delivered reply sink front).written = sink.written ++ front :=
  sink.written_sent reply.layout front

/-- The sink is flushed after the last byte of the reply, or not at all. -/
theorem marks_delivered (reply : Reply) (sink : Sink) (front : List UInt8) :
    (delivered reply sink front).marks
      = (if front = reply.layout then [.flushed (sink.written ++ front).length] else [])
        ++ sink.marks :=
  sink.marks_sent reply.layout front

theorem flushes_delivered (reply : Reply) (sink : Sink) (front : List UInt8) :
    (delivered reply sink front).flushes
      = sink.flushes + if front = reply.layout then 1 else 0 :=
  sink.flushes_sent reply.layout front

/-- A channel is not closed by what is written to it. -/
theorem closes_delivered (reply : Reply) (sink : Sink) (front : List UInt8) :
    (delivered reply sink front).closes = sink.closes :=
  sink.closes_sent reply.layout front

/-- What is reported of a job: one notice for a reply that did not get through, and one for a
channel that could not be closed. -/
def reports (job : Job) (mishap closing : Option Fault) : List Notice :=
  mishap.toList.map (fun fault => .replyFailed job.name (.io fault))
    ++ closing.toList.map (.closeFailed job.name)

/-- Whatever went wrong, the channel is closed, after all that could be written. -/
theorem complete_fills (job : Job) (reply : Reply) :
    ∃ front, job.channel.sink.Fills reply.layout front ∧ job.complete reply
      = ({ job.channel with sink := (delivered reply job.channel.sink front).close.2 },
        job.reports (mishap? reply job.channel.sink front) job.channel.sink.closeFault) := by
  obtain ⟨front, fills, delivers⟩ := deliver_fills reply job.channel.sink
  have same : (delivered reply job.channel.sink front).closeFault
      = job.channel.sink.closeFault := by
    unfold delivered
    split
    · unfold Sink.flush
      split <;> rfl
    · rfl
  refine ⟨front, fills, ?_⟩
  unfold complete
  rw [delivers]
  cases mishap? reply job.channel.sink front <;>
    cases closes : job.channel.sink.closeFault <;>
      simp [reports, Sink.close, same, closes]

/-- The channel of a job that was completed with this reply, and what was reported of it. -/
structure Completed (job : Job) (reply : Reply) (front : List UInt8) (channel : Channel)
    (notices : List Notice) : Prop where
  /-- Of the reply, the longest front went through that the sink accepted. -/
  fills : job.channel.sink.Fills reply.layout front
  written : channel.sink.written = job.channel.sink.written ++ front
  whole : front = reply.layout ↔ job.channel.sink.Accepts reply.layout
  flushes : channel.sink.flushes
    = job.channel.sink.flushes + if front = reply.layout then 1 else 0
  closes : channel.sink.closes = job.channel.sink.closes + 1
  /-- It was flushed if the whole reply was there, and then it was closed. -/
  marks : channel.sink.marks = .closed channel.sink.written.length
    :: ((if front = reply.layout then [.flushed channel.sink.written.length] else [])
      ++ job.channel.sink.marks)
  reports : notices
    = job.reports (mishap? reply job.channel.sink front) job.channel.sink.closeFault
  errors : ∀ notice ∈ notices, notice.severity = .error
  own : channel.id = job.channel.id ∧ channel.source = job.channel.source

/-- What goes wrong with a reply is an error, and nothing milder. -/
theorem severity_of_mem_reports {mishap closing : Option Fault} {notice : Notice}
    (member : notice ∈ job.reports mishap closing) : notice.severity = .error := by
  simp only [reports, List.mem_append, List.mem_map] at member
  rcases member with ⟨fault, -, rfl⟩ | ⟨fault, -, rfl⟩
  · rfl
  · rfl

/-- Whatever fails, the channel is closed exactly once, after everything else. -/
theorem closes_once_and_last (job : Job) (reply : Reply) :
    ∃ front, job.Completed reply front (job.complete reply).1 (job.complete reply).2 := by
  obtain ⟨front, fills, completes⟩ := complete_fills job reply
  rw [completes]
  refine ⟨front, ?_⟩
  exact {
    fills := fills
    written := by
      rw [Sink.written_close, written_delivered]
    whole := fills.eq_iff
    flushes := by
      rw [Sink.flushes_close, flushes_delivered]
    closes := by
      rw [Sink.closes_close, closes_delivered]
    marks := by
      rw [Sink.marks_close, Sink.written_close, marks_delivered, written_delivered]
    reports := rfl
    errors := fun notice => severity_of_mem_reports
    own := ⟨rfl, rfl⟩ }

end Job

end AttachService
