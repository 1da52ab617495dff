/-
Module: AttachService.Intake.Next
Purpose: How the consumer comes to its next job.
Trusted boundary: none
Main exports: Pending, Intake.takeQueued, Materialized, Pending.materialize, Turn,
  Intake.next
-/
import AttachService.Intake.Basic
import AttachService.Job
import AttachService.Wire.Request

namespace AttachService

/-!
The consumer takes a unit of the semaphore, then the head of the queue.  The slot goes back
to the pool before any channel is touched.  A request becomes a job once its channel is open
and, for version 2, the request has been read from it; otherwise it is dropped with a notice
and the next one is tried.
-/

/-- What the consumer keeps of a request when its slot goes back to the pool. -/
inductive Pending where
  | inline (name : String) (args : List String) (channel : String)
  | onChannel (channel : String)
  | unsupported (version : UInt32) (name : String)
deriving Repr, Inhabited, DecidableEq

/-- The part of a request that its version makes use of. -/
def Pending.ofSubmission (s : Submission) : Pending :=
  match Version.ofNumber? s.version with
  | some .v1 => .inline s.name s.args.toList s.channel
  | some .v2 => .onChannel s.channel
  | none => .unsupported s.version s.name

/-- What became of a request whose turn has come. -/
inductive Materialized where
  | job (job : Job)
  /-- It was dropped. -/
  | dropped
  /-- Opening its channel took the consumer down. -/
  | panicked
deriving Repr, Inhabited, DecidableEq

namespace Pending

/-- Read the request on a channel, waiting at most so long.  Waiting no time at all means
that everything has to be there already. -/
def readWithin (millis : Nat) (source : Source) : Except NoRequest Request × Source :=
  if millis = 0 then Request.read source.withoutPatience else Request.read source

variable {world : Type} [Transport world]

/-- Read a version 2 request from its open channel. -/
def readJob (settings : Settings) (name : String) (channel : Channel) (w : world) :
    Materialized × world × List Event :=
  let (request, source) := readWithin settings.readMillis channel.source
  let channel := { channel with source := source }
  let drop (notice : Notice) : Materialized × world × List Event :=
    (.dropped, Transport.giveBack w channel, [.notice notice])
  match request with
  | .ok ⟨.v2, command, args⟩ => (.job ⟨command, args, channel⟩, w, [])
  | .ok ⟨version, _, _⟩ => drop (.unexpectedVersion name version)
  | .error (.flaw flaw) => drop (.unreadable name flaw)
  | .error .silent => drop (.noRequest name settings.readMillis)

/-- Open the channel of a request, and go on with it if that works. -/
def withChannel (name : String) (mode : OpenMode) (w : world)
    (use : Channel → world → Materialized × world × List Event) :
    Materialized × world × List Event :=
  match Transport.openChannel w name mode with
  | (.opened channel, w) =>
      let (result, w, events) := use channel w
      (result, w, .opening name mode :: events)
  | (.failed fault, w) =>
      (.dropped, w, [.opening name mode, .notice (.notOpened mode name fault)])
  | (.panicked, w) => (.panicked, w, [.opening name mode])

/-- Turn a request into a job. -/
def materialize (settings : Settings) (w : world) :
    Pending → Materialized × world × List Event
  | .inline name args channel =>
      withChannel channel .writeOnly w fun opened w => (.job ⟨name, args, opened⟩, w, [])
  | .onChannel channel =>
      withChannel channel .readWrite w fun opened w => readJob settings channel opened w
  | .unsupported version name => (.dropped, w, [.notice (.unsupported version name)])

end Pending

/-- What a turn of the consumer comes to. -/
inductive Turn where
  | job (job : Job)
  /-- The intake is shut down and its queue is empty. -/
  | closed
  /-- The queue is empty; the consumer sleeps. -/
  | waiting
  /-- The consumer died. -/
  | panicked
deriving Repr, Inhabited, DecidableEq

namespace Intake

/-- Take the head of the queue, with the request in it. -/
def pull? (intake : Intake) : Option (SlotId × Submission × Intake) :=
  match intake.chains.takeHead with
  | none => none
  | some (i, chains) => some (i, (chains.slot i).contents, { intake with chains := chains })

/-- Take the request at the head of the queue and give its slot back to the pool. -/
def takeQueued (intake : Intake) : Option (Submission × Intake) :=
  match intake.pull? with
  | none => none
  | some (i, request, after) => some (request, after.vacate i)

/-- Taking a request does not touch the semaphore: its unit was taken before. -/
theorem pending_of_takeQueued {intake after : Intake} {request : Submission}
    (h : intake.takeQueued = some (request, after)) : after.pending = intake.pending := by
  unfold takeQueued pull? at h
  split at h
  · cases h
  next found =>
    cases h
    split at found
    · cases found
    · cases found
      rfl

/-- Die right after taking the head of the queue, holding the lock: the slot is lost and the
lock is poisoned.  Says which slot, and which request goes with it. -/
def dieHolding (intake : Intake) : Option (SlotId × Submission) × Intake :=
  match intake.pull? with
  | none => (none, intake.poison)
  | some (i, request, after) => (some (i, request), after.poison)

/-- Let the consumer take a unit of the semaphore and die with the head of the queue in its
hands.  Nothing if no unit is left. -/
def dieTaking (intake : Intake) : Option Intake :=
  match intake.pending.acquire with
  | .granted pending => some { intake with pending := pending }.dieHolding.2
  | _ => none

variable {world : Type} [Transport world]

/-- Let the consumer go on until it has a job or cannot go on.  Each round takes a unit of
the semaphore, and nothing here adds one. -/
def next (intake : Intake) (w : world) : Turn × Intake × world × List Event :=
  match _unit : intake.pending.acquire with
  | .refused => (.closed, intake, w, [])
  | .blocked => (.waiting, intake, w, [])
  | .granted pending =>
      match _taken : { intake with pending := pending }.takeQueued with
      | none =>
          let (turn, intake, w, events) := next { intake with pending := pending } w
          (turn, intake, w, .notice .emptyQueue :: events)
      | some (request, after) =>
          match (Pending.ofSubmission request).materialize after.settings w with
          | (.job job, w, events) => (.job job, after, w, events)
          | (.panicked, w, events) => (.panicked, after, w, events)
          | (.dropped, w, events) =>
              let (turn, intake, w, more) := next after w
              (turn, intake, w, events ++ more)
termination_by intake.pending.count
decreasing_by
  · have := Semaphore.count_of_acquire _unit
    omega
  · have fewer := Semaphore.count_of_acquire _unit
    have same : after.pending = pending := pending_of_takeQueued _taken
    rw [same]
    omega

end Intake

end AttachService
