/-
Module: AttachService.Intake.Race
Purpose: Any number of producers and consumers at one intake, their steps taken in any order.
Trusted boundary: each step is atomic, and what the lock guards is touched by its holder only
Main exports: Progress, Stage, Holder, Race, Move, Race.move, Race.run
-/
import AttachService.Intake.Next
import AttachService.Intake.Submit

namespace AttachService

/-!
`Intake.submit` and `Intake.next` carry one party through without a break.  In a race every
party can be overtaken between any two of its steps, and each step touches the shared state
once.

A producer looks for readiness and checks its request before it asks for the lock, then keeps
the lock until it has its answer.  The semaphore is not behind the lock: a consumer may take
the unit for a request before that request is in the queue, but then it has to wait for the
lock as well.  Readiness is seen without the lock, so that a producer may look while a
shutdown is half done.  The last step of shutting down is not behind the lock either.

A race is told by the list of moves that were made.  A move whose party is not there, is not
at that point, or has to wait, changes nothing; so every list of moves is a schedule.
-/

/-- How far a producer has come. -/
inductive Progress where
  /-- It has found the intake not ready so many times, and slept after each. -/
  | waiting (sleeps : Nat)
  /-- It was welcome and its request is in order; it asks for the lock. -/
  | checked
  /-- It holds the lock. -/
  | inside
  /-- It is gone. -/
  | answered (answer : Except Refusal Unit)
deriving Repr

/-- A producer: what it submits, and how far it has come. -/
structure Producer where
  request : Submission
  progress : Progress := .waiting 0
deriving Repr

/-- How far a producer has come with the lock. -/
inductive Stage where
  | entered
  /-- It has seen that it is still welcome. -/
  | welcome
  /-- It has a slot. -/
  | reserved (i : SlotId)
  /-- It has a slot, and has announced its request. -/
  | announced (i : SlotId)
  /-- It has a slot with its request in it, which is announced. -/
  | filled (i : SlotId)
  /-- It knows its answer, and gives the lock back. -/
  | leaving (answer : Except Refusal Unit)
deriving Repr

/-- Who holds the lock, and how far it has come with it. -/
inductive Holder where
  /-- The producer with this number, which submits this request. -/
  | producer (k : Nat) (request : Submission) (stage : Stage)
  /-- Somebody who is about to make the intake ready. -/
  | opener
  /-- Somebody who shuts down, and is about to mark the intake closed. -/
  | closer
  /-- Somebody who has marked it closed, and is about to mark it not ready. -/
  | withdrawer
  /-- Somebody who has marked it both, and gives the lock back. -/
  | withdrawn
  /-- A consumer with a unit, about to take the head of the queue. -/
  | taker
  /-- A consumer with the head of the queue in its hands. -/
  | bearer (i : SlotId)
  /-- Somebody who is done, and gives the lock back. -/
  | departing
deriving Repr

/-- An intake and all that is going on at it. -/
structure Race where
  intake : Intake
  /-- The producers, in the order in which they came. -/
  producers : List Producer := []
  holder : Option Holder := none
  /-- The producers that have taken the lock, the first one first. -/
  entered : List Nat := []
  /-- How many consumers have taken a unit, but no request for it yet. -/
  owed : Nat := 0
  /-- How often a consumer was told that there will be no more requests. -/
  sentHome : Nat := 0
  /-- How many have shut down behind the lock, and have not closed the semaphore yet. -/
  closing : Nat := 0
  /-- The slots that consumers took with them when they died. -/
  lost : List SlotId := []
  /-- The requests that were accepted, each with the number of its producer, the first one
  first. -/
  accepted : List (Nat × Submission) := []
  /-- What the slots taken from the queue held, the first one first. -/
  taken : List Submission := []
deriving Repr

/-- One step of one party. -/
inductive Move where
  /-- A producer comes with a request. -/
  | arrive (request : Submission)
  /-- The producer with this number takes its next step. -/
  | proceed (producer : Nat)
  /-- Somebody who wants to make the intake ready takes the lock. -/
  | markReady
  /-- Somebody who wants to shut the intake down takes the lock. -/
  | withdraw
  /-- The last step of shutting down. -/
  | close
  /-- A consumer tries to take a unit. -/
  | acquire
  /-- A consumer that has a unit takes the lock. -/
  | take
  /-- The holder of the lock, if it is no producer, takes its next step. -/
  | carryOn
  /-- A consumer dies with the head of the queue in its hands. -/
  | die
deriving Repr, DecidableEq

namespace Race

/-- The race before anybody has come. -/
def start (settings : Settings) : Race := { intake := .new settings }

/-- Let a producer have come so far. -/
def advance (race : Race) (k : Nat) (progress : Progress) : Race :=
  { race with producers := race.producers.modify k fun p => { p with progress := progress } }

/-- Take the lock, unless somebody else has it. -/
def lock (race : Race) (holder : Holder) : Race :=
  if race.holder.isSome then race else { race with holder := some holder }

/-- Producer `k` looks for readiness, and checks its request if it is welcome. -/
def look (race : Race) (k : Nat) (request : Submission) (sleeps : Nat) : Race :=
  if race.intake.ready then
    if request.Acceptable race.intake.settings.channelPrefix then race.advance k .checked
    else race.advance k (.answered (.error .illegal))
  else if sleeps = race.intake.settings.pollAttempts then
    race.advance k (.answered (.error .disabled))
  else race.advance k (.waiting (sleeps + 1))

/-- Producer `k` takes the lock, unless somebody else has it or it is unusable. -/
def enter (race : Race) (k : Nat) (request : Submission) : Race :=
  if race.holder.isSome then race
  else if race.intake.poisoned then race.advance k (.answered (.error .broken))
  else
    { race.advance k .inside with
      holder := some (.producer k request .entered)
      entered := race.entered ++ [k] }

/-- The next step of producer `k`, which holds the lock. -/
def handle (race : Race) (k : Nat) (request : Submission) : Stage → Race
  | .entered =>
      if race.intake.ready then { race with holder := some (.producer k request .welcome) }
      else { race with holder := some (.producer k request (.leaving (.error .disabled))) }
  | .welcome =>
      match race.intake.reserve? with
      | none => { race with holder := some (.producer k request (.leaving (.error .exhausted))) }
      | some (i, intake) =>
          { race with intake := intake, holder := some (.producer k request (.reserved i)) }
  | .reserved i =>
      match race.intake.announce? with
      | none =>
          { race with
            intake := race.intake.vacate i
            holder := some (.producer k request (.leaving (.error .broken))) }
      | some intake =>
          { race with intake := intake, holder := some (.producer k request (.announced i)) }
  | .announced i =>
      { race with
        intake := race.intake.copyIn i request
        holder := some (.producer k request (.filled i)) }
  | .filled i =>
      { race with
        intake := race.intake.enlist i
        holder := some (.producer k request (.leaving (.ok ())))
        accepted := race.accepted ++ [(k, request)] }
  | .leaving answer => { race.advance k (.answered answer) with holder := none }

/-- The next step of producer `k`. -/
def proceed (race : Race) (k : Nat) (p : Producer) : Race :=
  match p.progress with
  | .waiting sleeps => race.look k p.request sleeps
  | .checked => race.enter k p.request
  | .inside =>
      match race.holder with
      | some (.producer j request stage) =>
          if j = k then race.handle k request stage else race
      | _ => race
  | .answered _ => race

/-- The next step of whoever holds the lock and is no producer.  A consumer that finds the
queue empty asks for another unit. -/
def carryOn (race : Race) : Race :=
  match race.holder with
  | some .opener => { race with intake := race.intake.markReady, holder := some .departing }
  | some .closer => { race with intake := race.intake.markClosed, holder := some .withdrawer }
  | some .withdrawer =>
      { race with intake := race.intake.markUnready, holder := some .withdrawn }
  | some .withdrawn => { race with holder := none, closing := race.closing + 1 }
  | some .taker =>
      match race.intake.pull? with
      | none => { race with holder := some .departing, owed := race.owed - 1 }
      | some (i, request, intake) =>
          { race with
            intake := intake
            holder := some (.bearer i)
            owed := race.owed - 1
            taken := race.taken ++ [request] }
  | some (.bearer i) =>
      { race with intake := race.intake.vacate i, holder := some .departing }
  | some .departing => { race with holder := none }
  | some (.producer ..) | none => race

/-- A consumer dies while it holds the lock and a slot. -/
def die (race : Race) : Race :=
  match race.holder with
  | some (.bearer i) =>
      { race with intake := race.intake.poison, holder := none, lost := race.lost ++ [i] }
  | _ => race

/-- What becomes of the race with a move. -/
def move (race : Race) : Move → Race
  | .arrive request => { race with producers := race.producers ++ [{ request := request }] }
  | .proceed k =>
      match race.producers[k]? with
      | none => race
      | some p => race.proceed k p
  | .markReady => race.lock .opener
  | .withdraw => race.lock .closer
  | .close =>
      match race.closing with
      | 0 => race
      | closing + 1 => { race with intake := race.intake.closePending, closing := closing }
  | .acquire =>
      match race.intake.pending.acquire with
      | .granted pending =>
          { race with intake := { race.intake with pending := pending }, owed := race.owed + 1 }
      | .refused => { race with sentHome := race.sentHome + 1 }
      | .blocked => race
  | .take => if race.owed = 0 then race else race.lock .taker
  | .carryOn => race.carryOn
  | .die => race.die

/-- What becomes of the race with these moves. -/
def run (race : Race) (moves : List Move) : Race := moves.foldl move race

/-! ### Parties that are not overtaken -/

/-- Let somebody make the intake ready. -/
def openUp (race : Race) : Race := race.run [.markReady, .carryOn, .carryOn]

/-- Let somebody shut the intake down, as far as that is behind the lock. -/
def withdrawNow (race : Race) : Race := race.run [.withdraw, .carryOn, .carryOn, .carryOn]

/-- Let a consumer that has a unit take the head of the queue and give the slot back. -/
def takeNow (race : Race) : Race := race.run [.take, .carryOn, .carryOn, .carryOn]

/-- Let a consumer that has a unit take the head of the queue and die. -/
def dieNow (race : Race) : Race := race.run [.take, .carryOn, .die]

end Race

end AttachService
