/-
Module: AttachService.Relaying
Purpose: The relay thread and the producers it starts, overtaken at any point by whoever else is
  at the intake.
Trusted boundary: a thread that is started does start
Main exports: RelayPost, RelayKeeper, Origin, Relaying, RelayMove, Relaying.work, Relaying.finish,
  Relaying.move, Relaying.run
-/
import AttachService.Intake.Race
import AttachService.Relay

namespace AttachService

/-!
`Relay.receive` deals with an arrival as if the producer for it were through before the next one
comes.  In truth the thread only starts that producer and goes on listening, and the producer is
one party of a race like any other: it is overtaken by those that were started before and after
it, by producers of others, by the consumer and by whoever shuts the intake down.

The thread takes what its stream gives, and leaves when that ends, or when its keeper wants it to
and it is not busy.  If the stream has something to give and the keeper wants the thread to leave,
either may happen.  While the stream has nothing to give, the thread takes no step.
-/

/-- Where the relay thread is. -/
inductive RelayPost where
  | listening
  /-- It was given the name of a channel, and is about to start a producer for it. -/
  | starting (channel : String)
  /-- It was given a failure, and is about to report it. -/
  | reporting (words : String)
  | gone
deriving Repr, Inhabited, DecidableEq

/-- How far the keeper has come with stopping the thread. -/
inductive RelayKeeper where
  | away
  /-- The thread was told to leave, and is waited for. -/
  | waiting
  | done
deriving Repr, Inhabited, DecidableEq

/-- Where a producer comes from. -/
inductive Origin where
  /-- The relay thread has started it for this channel. -/
  | relayed (channel : String)
  /-- It has come on its own. -/
  | foreign (request : Submission)
deriving Repr, DecidableEq

/-- What the thread does with an arrival. -/
def Arrival.post : Arrival → RelayPost
  | .request channel => .starting channel
  | .failure words => .reporting words

/-- A race with the relay thread and its producers in it. -/
structure Relaying where
  race : Race
  /-- What the stream has not given yet. -/
  ahead : List Arrival
  post : RelayPost := .listening
  keeper : RelayKeeper := .away
  /-- What the stream has given, the first item first. -/
  heard : List Arrival := []
  /-- Where the producers come from, by their numbers. -/
  origins : List Origin := []
  /-- The producers of the thread that are through, the first one first. -/
  finished : List Nat := []
  events : List Event := []
deriving Repr

/-- One step of one party. -/
inductive RelayMove where
  /-- Somebody at the intake moves, who may be a producer that the thread has started. -/
  | atIntake (move : Move)
  /-- The thread takes its next step. -/
  | work
  /-- The thread leaves because it was told to. -/
  | heed
  /-- A producer of the thread, which has its answer, reports it if it is a refusal. -/
  | finish (k : Nat)
  /-- The keeper takes its next step. -/
  | stop
deriving Repr, DecidableEq

namespace Relaying

/-- The thread before anything has come. -/
def start (settings : Settings) (stream : List Arrival) : Relaying :=
  { race := .start settings, ahead := stream }

/-- A producer comes to the intake. -/
def come (r : Relaying) (request : Submission) (origin : Origin) : Relaying :=
  { r with race := r.race.move (.arrive request), origins := r.origins ++ [origin] }

/-- The next step of the thread.  It listens, or goes on with what it was given. -/
def work (r : Relaying) : Relaying :=
  match r.post with
  | .listening =>
      match r.ahead with
      | [] => { r with post := .gone }
      | arrival :: rest =>
          { r with ahead := rest, heard := r.heard ++ [arrival], post := arrival.post }
  | .starting channel =>
      { r.come (Relay.submission channel) (.relayed channel) with post := .listening }
  | .reporting words =>
      { r with events := r.events ++ [.notice (.signalFailed words)], post := .listening }
  | .gone => r

/-- The thread leaves if it was told to, unless it is busy. -/
def heed (r : Relaying) : Relaying :=
  if r.post = .listening ∧ r.keeper ≠ .away then { r with post := .gone } else r

/-- The answer of a producer that the thread has started, with the channel it was started for. -/
def answer? (r : Relaying) (k : Nat) : Option (String × Except Refusal Unit) :=
  match r.origins[k]?, r.race.producers[k]? with
  | some (.relayed channel), some ⟨_, .answered answer⟩ => some (channel, answer)
  | _, _ => none

/-- What such a producer reports. -/
def report (channel : String) : Except Refusal Unit → List Event
  | .ok () => []
  | .error refusal => [.notice (.refused channel refusal)]

/-- The last step of a producer that the thread has started. -/
def finish (r : Relaying) (k : Nat) : Relaying :=
  if k ∈ r.finished then r
  else
    match r.answer? k with
    | none => r
    | some (channel, answer) =>
        { r with
          finished := r.finished ++ [k]
          events := r.events ++ report channel answer }

/-- The next step of the keeper.  It tells the thread, and waits for it to be gone. -/
def stop (r : Relaying) : Relaying :=
  match r.keeper with
  | .away => { r with keeper := .waiting }
  | .waiting => if r.post = .gone then { r with keeper := .done } else r
  | .done => r

/-- What becomes of it with a move. -/
def move (r : Relaying) : RelayMove → Relaying
  | .atIntake (.arrive request) => r.come request (.foreign request)
  | .atIntake m => { r with race := r.race.move m }
  | .work => r.work
  | .heed => r.heed
  | .finish k => r.finish k
  | .stop => r.stop

/-- What becomes of it with these moves. -/
def run (r : Relaying) (moves : List RelayMove) : Relaying := moves.foldl move r

end Relaying

end AttachService
