/-
Module: AttachService.Proofs.Commands.Transparent
Purpose: A client gets from the service what running its command comes to, and nothing else.
Trusted boundary: none
Main exports: Job.complete_of_reliable, CommandTable.serve_of_reliable,
  Transport.Carries, CommandTable.RoundTrip, CommandTable.serves_what_it_executes
-/
import AttachService.Commands.Table
import AttachService.Proofs.Commands.Completing
import AttachService.Proofs.Intake.Deciding
import AttachService.Proofs.Intake.Turns
import AttachService.Proofs.Wire.RoundTrip

namespace AttachService

/-! ### Answering on a channel that does not fail -/

/-- On such a channel a job is completed with its whole reply, and there is nothing to report. -/
theorem Job.complete_of_reliable {job : Job} (reliable : job.channel.sink.Reliable)
    (r : Reply) :
    (job.complete r).2 = []
      ∧ (job.complete r).1.sink.written = job.channel.sink.written ++ r.layout := by
  obtain ⟨front, fills, completes⟩ := job.complete_fills r
  have whole : front = r.layout := fills.eq_iff.2 (reliable.accepts r.layout)
  have through : Job.mishap? r job.channel.sink front = none := by
    rw [Job.mishap?, if_pos whole, reliable.flushes]
  rw [completes, through, reliable.closes]
  constructor
  · rfl
  · rw [Sink.written_close, Job.written_delivered, whole]

/-- Serving a job runs its command, and the client is sent what that comes to. -/
theorem CommandTable.serve_of_reliable (table : CommandTable) (job : Job)
    (reliable : job.channel.sink.Reliable) :
    (table.serve job).2 = (table.execute job.name job.args).2
      ∧ (table.serve job).1.sink.written
        = job.channel.sink.written ++ (table.execute job.name job.args).1.layout := by
  obtain ⟨silent, written⟩ :=
    Job.complete_of_reliable reliable (table.execute job.name job.args).1
  refine ⟨?_, written⟩
  simp only [CommandTable.serve, silent, List.append_nil]

/-! ### Requests that come on their channel -/

/-- The source as a reader sees it that waits at most so long. -/
def Pending.patient (millis : Nat) (source : Source) : Source :=
  if millis = 0 then source.withoutPatience else source

/-- A reader that gives up after a while is one that reads a source which breaks off then. -/
theorem Pending.readWithin_eq (millis : Nat) (source : Source) :
    readWithin millis source = Request.read (patient millis source) := by
  unfold readWithin patient
  split
  · rfl
  · rfl

/-- A request that was written and comes in time is read as what it was, if it has no NUL. -/
theorem Pending.readWithin_of_layout {millis : Nat} {source : Source} {name : String}
    {args : List String} {bytes rest : List UInt8}
    (clean : ∀ text ∈ name :: args, '\x00' ∉ text.toList)
    (laid : Request.layout ⟨.v2, name, args⟩ = .ok bytes)
    (arrives : (patient millis source).arriving = bytes ++ rest) :
    ∃ after, readWithin millis source = (.ok ⟨.v2, name, args⟩, after) := by
  obtain ⟨⟨version, first, others⟩, after, read, received⟩ :=
    Request.read_of_layout_sized laid arrives
  obtain rfl : version = .v2 := received.version
  obtain ⟨rfl, rfl⟩ := List.cons.inj (received.clean clean).1
  exact ⟨after, (readWithin_eq millis source).trans read⟩

/-- The request of somebody who sends the command on the channel of this name. -/
def Submission.onChannel (path : String) : Submission := ⟨2, "", .replicate _ "", path⟩

/-- A request that only names its channel keeps within the bounds if that name does. -/
theorem Submission.onChannel_acceptable {channelPrefix path : String}
    (short : path.utf8ByteSize ≤ Limits.channelBytes)
    (named : channelPrefix.toList <+: path.toList) :
    (onChannel path).Acceptable channelPrefix := by
  refine ⟨⟨Nat.zero_le _, ?_, short⟩, named⟩
  intro arg member
  have empty : arg = "" := by simpa [onChannel] using member
  rw [empty]
  exact Nat.zero_le _

/-- Whoever opens this name gets a channel on which the bytes come in time, whatever comes
after them, and which takes whatever is answered. -/
structure Transport.Carries {world : Type} [Transport world] (w : world) (path : String)
    (millis : Nat) (bytes : List UInt8) (channel : Channel) (opened : world) : Prop where
  opens : Transport.openChannel w path .readWrite = (.opened channel, opened)
  arrives : ∃ rest, (Pending.patient millis channel.source).arriving = bytes ++ rest
  reliable : channel.sink.Reliable

variable {world : Type} [Transport world] {w opened : world} {channel : Channel}
  {path name : String} {args : List String} {bytes : List UInt8} {race : Race}

/-- The request on the channel is served as the command that was written to it. -/
theorem Transport.Carries.serves {settings : Settings}
    (carries : Transport.Carries w path settings.readMillis bytes channel opened)
    (clean : ∀ text ∈ name :: args, '\x00' ∉ text.toList)
    (laid : Request.layout ⟨.v2, name, args⟩ = .ok bytes) :
    ∃ source, (Submission.onChannel path).Serves settings w
      ⟨name, args, { channel with source := source }⟩ opened := by
  obtain ⟨rest, arrives⟩ := carries.arrives
  obtain ⟨source, reads⟩ := Pending.readWithin_of_layout clean laid arrives
  exact ⟨source, .onChannel ⟨rfl, carries.opens⟩ reads⟩

/-! ### From the client and back to it -/

/-- What becomes of a client that has sent a command on the channel of this name: the service
takes it from the queue as `job`. -/
structure CommandTable.RoundTrip (table : CommandTable) (race : Race) (w : world)
    (path name : String) (args : List String) (channel : Channel) (opened : world) (job : Job)
    (after : Intake) : Prop where
  submits : (race.intake.submit (.onChannel path)).1 = .ok ()
  takes : (race.intake.submit (.onChannel path)).2.next w
    = (.job job, after, opened, [.opening path .readWrite])
  name_eq : job.name = name
  args_eq : job.args = args
  notices : (table.serve job).2 = (table.execute name args).2
  /-- Whoever gets the answer, and then the end, reads what the command came to. -/
  answers : ∃ answer, (table.serve job).1.sink.written = channel.sink.written ++ answer
    ∧ ∀ back : Source, back.arriving = answer → back.ending = .ended →
      (Reply.read back).1 = .ok (table.execute name args).1
  /-- The next client finds the service as this one did, with all slots free. -/
  idle : ∃ moves, (race.run moves).intake = after ∧ (race.run moves).Idle

/-- Where nothing is queued, a request that can be served is taken as soon as it has been
submitted, and nothing is queued again. -/
theorem Race.Idle.takes {request : Submission} {job : Job} (idle : race.Idle)
    (balanced : race.Balanced) (grounded : race.Grounded)
    (acceptable : request.Acceptable race.intake.settings.channelPrefix)
    (serves : request.Serves race.intake.settings w job opened) :
    ∃ after, (race.intake.submit request).1 = .ok ()
      ∧ (race.intake.submit request).2.next w = (.job job, after, opened, request.openings)
      ∧ ∃ moves, (race.run moves).intake = after ∧ (race.run moves).Idle := by
  have pool : race.intake.chains.freeChain ≠ [] := by
    intro none
    have all := idle.free
    rw [Intake.freeCount, none] at all
    cases all
  obtain ⟨accepted, handed, enlisted, beyond, queued⟩ :=
    (idle.orderly balanced).handIn idle.ready (idle.sane balanced grounded) pool acceptable
  rw [idle.queued_eq balanced, List.nil_append] at queued
  have submitted : race.intake.submit request = (.ok (), accepted) := by
    rw [Intake.submit, if_pos idle.ready, handed]
  have kept : accepted.settings = race.intake.settings := by rw [enlisted.same]
  have welcome : accepted.ready = race.intake.ready := by rw [enlisted.same]
  rw [← kept] at serves
  obtain ⟨after, next, nothing, turned⟩ := Intake.next_of_serves beyond queued serves
  -- The producer's moves come first, then those of the consumer.
  obtain ⟨first, arrived, unlocked⟩ := race.exists_submitted request idle.unlocked
  rw [submitted] at arrived
  have owed : (race.run first).owed = 0 := by
    have mirror := (balanced.run first).mirror unlocked
    rw [arrived, beyond.units] at mirror
    exact Nat.add_eq_left.1 mirror
  obtain ⟨second, reached, rest, -⟩ := turned.reached arrived unlocked owed
  rw [← run_append] at reached rest
  refine ⟨after, ?_, ?_, first ++ second, reached, rest, ?_, ?_⟩
  · rw [submitted]
  · rw [submitted, next]
  · rw [reached, turned.keeps, welcome, idle.ready]
  · have total := turned.orderly.length_eq
    rw [← turned.orderly.length_queued, nothing, List.length_nil, List.length_nil] at total
    rw [reached]
    exact total

/-- If an intake is ready, and a channel carries what a client has written, then the request is
accepted, taken and served, and the client reads the very reply that executing its command gives.
-/
theorem CommandTable.serves_what_it_executes (table : CommandTable) (settings : Settings)
    (moves : List Move) {clientSink clientAfter : Sink}
    (idle : ((Race.start settings).run moves).Idle)
    (clean : ∀ text ∈ name :: args, '\x00' ∉ text.toList)
    (written : (⟨.v2, name, args⟩ : Request).write clientSink = (.ok (), clientAfter))
    (new : clientAfter.written = clientSink.written ++ bytes)
    (short : path.utf8ByteSize ≤ Limits.channelBytes)
    (named : settings.channelPrefix.toList <+: path.toList)
    (carries : Transport.Carries w path settings.readMillis bytes channel opened) :
    ∃ job after, table.RoundTrip ((Race.start settings).run moves) w path name args channel
      opened job after := by
  have same := Race.settings_run settings moves
  have balanced := Race.balanced_run settings moves
  have grounded := Race.grounded_run settings moves
  generalize (Race.start settings).run moves = race at *
  subst same
  obtain ⟨source, serves⟩ := carries.serves clean (Request.layout_of_write written new)
  obtain ⟨after, submits, takes, reached⟩ := idle.takes balanced grounded
    (Submission.onChannel_acceptable short named) serves
  obtain ⟨notices, answered⟩ := table.serve_of_reliable
    ⟨name, args, { channel with source := source }⟩ carries.reliable
  refine ⟨⟨name, args, { channel with source := source }⟩, after, ?_⟩
  exact {
    submits := submits
    takes := takes
    name_eq := rfl
    args_eq := rfl
    notices := notices
    answers := by
      refine ⟨_, answered, fun back arrives ends => ?_⟩
      obtain ⟨t, read⟩ := Reply.read_of_layout arrives ends
      rw [read]
    idle := reached }

/-- One command, which says its arguments line by line and ends with a NUL. -/
def CommandTable.saying : CommandTable :=
  empty.register "say" fun args => ⟨String.intercalate "\n" args ++ "\x00", some (-7)⟩

/-- A client that has sent `say` with two arguments, in two pieces. -/
def Exchange.oneSaying : Exchange :=
  (⟨#[]⟩ : Exchange).listen "/tmp/1"
    ⟨[.piece [50, 0, 56, 0, 115, 97], .pause, .piece [121, 0, 104, 105, 0, 0]], 0⟩ {} none

/-- A client asks for `say`, and reads what was said. -/
theorem CommandTable.serves_what_it_executes_say :
    ((Race.start ⟨1000, 10, 10000, "/tmp/", ""⟩).run [.markReady, .carryOn, .carryOn]).Idle
      ∧ ∃ channel opened job after, CommandTable.saying.RoundTrip
        ((Race.start ⟨1000, 10, 10000, "/tmp/", ""⟩).run [.markReady, .carryOn, .carryOn])
        Exchange.oneSaying "/tmp/1" "say" ["hi", ""] channel opened job after := by
  have idle : ((Race.start ⟨1000, 10, 10000, "/tmp/", ""⟩).run
      [.markReady, .carryOn, .carryOn]).Idle := ⟨rfl, rfl, by decide +kernel⟩
  have written : (⟨.v2, "say", ["hi", ""]⟩ : Request).write {}
      = (.ok (),
        { reversed := [0, 0, 105, 104, 0, 121, 97, 115, 0, 56, 0, 50], flushes := 1 }) := by
    rfl
  have carries : Transport.Carries Exchange.oneSaying "/tmp/1" 10000
      [50, 0, 56, 0, 115, 97, 121, 0, 104, 105, 0, 0] _ _ :=
    ⟨rfl, ⟨[], rfl⟩, ⟨rfl, by decide, rfl, rfl⟩⟩
  exact ⟨idle, _, _, CommandTable.saying.serves_what_it_executes _ _ idle (by decide) written rfl
    (by decide) (by decide) carries⟩

end AttachService
