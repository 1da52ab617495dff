/-
Module: AttachService.Shift
Purpose: The consumer thread at work, overtaken at any point by producers and by shutting down.
Trusted boundary: an open channel is touched by the consumer thread only
Main exports: Post, Fate, Keeper, Shift, ShiftMove, Shift.work, Shift.stop, Shift.move, Shift.run
-/
import AttachService.Commands.Table
import AttachService.Intake.Race

namespace AttachService

/-!
`Service.run` carries the consumer thread through until it sleeps, and `Service.stop` lets it
finish.  In a shift the thread is one party of a race, and its keeper, who will stop it, is
another one: between any two of their steps producers may come and go on, anybody else may open
or shut down the intake, and what lies outside may change.

The thread makes the intake ready, then takes a unit, the request for it and the job in that
request, one after the other, and serves the job.  It leaves when there will be no more units,
or when it is taken down; either way it shuts the intake down on its way out.  The keeper shuts
it down as well, and then waits for the thread to be gone.

Like in a race, a move whose party has to wait changes nothing.
-/

/-- Where the consumer thread is. -/
inductive Post where
  | starting
  /-- It has the lock, to make the intake ready. -/
  | opening
  /-- It asks for a unit. -/
  | asking
  /-- It has a unit and asks for the lock. -/
  | owed
  /-- It has the lock as well. -/
  | taking
  /-- It has the lock, and the slot with this request in its hands. -/
  | bearing (request : Submission)
  /-- It has the lock still, and the request from the slot, if there was any. -/
  | parting (request : Option Submission)
  /-- It has taken a request. -/
  | holding (request : Submission)
  /-- It has a job from that request. -/
  | serving (request : Submission) (job : Job)
  /-- It is about to refuse further requests; `dead` if it was taken down. -/
  | leaving (dead : Bool)
  /-- It has the lock, to refuse further requests. -/
  | withdrawing (dead : Bool)
  /-- It is about to let nobody wait any longer. -/
  | closing (dead : Bool)
  | gone (dead : Bool)
deriving Repr, Inhabited, DecidableEq

/-- Whether the thread has the lock. -/
def Post.inside : Post → Bool
  | .opening | .taking | .bearing _ | .parting _ | .withdrawing _ => true
  | _ => false

/-- What became of a request that the thread has taken. -/
inductive Fate where
  | served (reply : Reply) (channel : Channel)
  | dropped
  /-- Its channel took the thread down. -/
  | fatal
  /-- The thread died with the slot of the request in its hands. -/
  | lost
deriving Repr, Inhabited, DecidableEq

/-- How far the keeper has come with stopping the thread. -/
inductive Keeper where
  | away
  /-- It has the lock, to refuse further requests. -/
  | withdrawing
  /-- It is about to let nobody wait any longer. -/
  | closing
  /-- It waits for the thread to be gone. -/
  | waiting
  /-- The thread is gone; `dead` if it was taken down. -/
  | done (dead : Bool)
deriving Repr, Inhabited, DecidableEq

/-- A race with the consumer thread and its keeper in it. -/
structure Shift (world : Type) where
  race : Race
  outside : world
  commands : CommandTable
  post : Post := .starting
  keeper : Keeper := .away
  /-- What became of the requests that were taken, the first one first. -/
  record : List (Submission × Fate) := []
  events : List Event := []

/-- One step of one party. -/
inductive ShiftMove (world : Type) where
  /-- Somebody other than the consumer thread and its keeper moves. -/
  | others (move : Move)
  /-- What lies outside is like this from now on. -/
  | drift (outside : world)
  /-- The consumer thread takes its next step. -/
  | work
  /-- The consumer thread dies, if it has a slot in its hands or a channel to see to. -/
  | collapse
  /-- The keeper takes its next step. -/
  | stop
deriving Repr, DecidableEq

namespace Shift

variable {world : Type} [Transport world]

/-- The thread before its first step. -/
def start (settings : Settings) (outside : world) (commands : CommandTable) : Shift world :=
  { race := .start settings, outside := outside, commands := commands }

/-- The thread makes this move in the race, and goes on from there. -/
def step (shift : Shift world) (move : Move) (post : Post) : Shift world :=
  { shift with race := shift.race.move move, post := post }

/-- Note what became of a request, and go on from there. -/
def note (shift : Shift world) (request : Submission) (fate : Fate) (post : Post)
    (outside : world) (events : List Event) : Shift world :=
  { shift with
    outside := outside
    post := post
    record := shift.record ++ [(request, fate)]
    events := shift.events ++ events }

/-- The thread turns the request it has taken into a job. -/
def unwrap (shift : Shift world) (request : Submission) : Shift world :=
  match (Pending.ofSubmission request).materialize shift.race.intake.settings shift.outside with
  | (.job job, outside, events) =>
      { shift with
        outside := outside
        post := .serving request job
        events := shift.events ++ events }
  | (.dropped, outside, events) => shift.note request .dropped .asking outside events
  | (.panicked, outside, events) => shift.note request .fatal (.leaving true) outside events

/-- The thread runs the command of its job and answers it. -/
def answer (shift : Shift world) (request : Submission) (job : Job) : Shift world :=
  let (reply, notices) := shift.commands.execute job.name job.args
  let (channel, more) := job.complete reply
  shift.note request (.served reply channel) .asking (Transport.giveBack shift.outside channel)
    ((notices ++ more).map .notice)

/-- The next step of the consumer thread.  It waits for the lock, and for a unit. -/
def work (shift : Shift world) : Shift world :=
  let locked := shift.race.holder.isSome
  let released := (shift.race.move .carryOn).holder.isNone
  match shift.post with
  | .starting => if locked then shift else shift.step .markReady .opening
  | .opening => shift.step .carryOn (if released then .asking else .opening)
  | .asking =>
      match shift.race.intake.pending.acquire with
      | .granted _ => shift.step .acquire .owed
      | .refused => shift.step .acquire (.leaving false)
      | .blocked => shift
  | .owed => if locked then shift else shift.step .take .taking
  | .taking =>
      match shift.race.intake.pull? with
      | none => shift.step .carryOn (.parting none)
      | some (_, request, _) => shift.step .carryOn (.bearing request)
  | .bearing request => shift.step .carryOn (.parting (some request))
  | .parting (some request) => shift.step .carryOn (.holding request)
  | .parting none =>
      { shift.step .carryOn .asking with events := shift.events ++ [.notice .emptyQueue] }
  | .holding request => shift.unwrap request
  | .serving request job => shift.answer request job
  | .leaving dead => if locked then shift else shift.step .withdraw (.withdrawing dead)
  | .withdrawing dead => shift.step .carryOn (if released then .closing dead else .withdrawing dead)
  | .closing dead => shift.step .close (.gone dead)
  | .gone _ => shift

/-- The consumer thread dies with a slot in its hands, or on its way to a job, or with one. -/
def collapse (shift : Shift world) : Shift world :=
  match shift.post with
  | .bearing request =>
      let struck := shift.step .die shift.post
      struck.note request .lost (.leaving true) shift.outside []
  | .holding request | .serving request _ =>
      shift.note request .fatal (.leaving true) shift.outside []
  | _ => shift

/-- The next step of the keeper.  It waits for the lock, and for the thread. -/
def stop (shift : Shift world) : Shift world :=
  match shift.keeper with
  | .away =>
      if shift.race.holder.isSome then shift
      else { shift with race := shift.race.move .withdraw, keeper := .withdrawing }
  | .withdrawing =>
      let race := shift.race.move .carryOn
      { shift with
        race := race
        keeper := if race.holder.isNone then .closing else .withdrawing }
  | .closing => { shift with race := shift.race.move .close, keeper := .waiting }
  | .waiting =>
      match shift.post with
      | .gone false => { shift with keeper := .done false }
      | .gone true =>
          { shift with
            keeper := .done true
            events := shift.events ++ [.notice .consumerPanicked] }
      | _ => shift
  | .done _ => shift

/-- Whether the thread or its keeper has the lock. -/
def occupied (shift : Shift world) : Bool :=
  shift.post.inside || shift.keeper == .withdrawing

/-- What becomes of the shift with a move.  Only the consumer thread takes from the queue. -/
def move (shift : Shift world) : ShiftMove world → Shift world
  | .others .acquire | .others .take | .others .die => shift
  | .others .carryOn =>
      if shift.occupied then shift else { shift with race := shift.race.move .carryOn }
  | .others move => { shift with race := shift.race.move move }
  | .drift outside => { shift with outside := outside }
  | .work => shift.work
  | .collapse => shift.collapse
  | .stop => shift.stop

/-- What becomes of the shift with these moves. -/
def run (shift : Shift world) (moves : List (ShiftMove world)) : Shift world :=
  moves.foldl move shift

end Shift

end AttachService
