/-
Module: AttachService.Intake.Basic
Purpose: The meeting point of producers and the consumer: slots, semaphore, readiness.
Trusted boundary: none
Main exports: Intake, Intake.new, Intake.markReady, Intake.shutDown, Intake.freeCount,
  Intake.queuedCount
-/
import AttachService.Pool.Chains
import AttachService.Semaphore.Basic
import AttachService.Settings.Basic

namespace AttachService

/-!
Producers put requests into slots and queue them; one consumer takes them out in the same
order.  A lock guards the slots and their chains as one unit.  The semaphore counts queued
requests, so that the consumer can sleep until there is one.  The two flags say whether
producers are welcome: `ready` comes and goes with the consumer, `closed` stays once it is
set.

A thread that dies while it holds the lock poisons it.  Producers then refuse to go on;
all others take the lock as if nothing had happened.
-/

/-- All that producers and the consumer share. -/
structure Intake where
  settings : Settings
  chains : Chains := .initial
  pending : Semaphore := .new 0 Limits.slots
  ready : Bool := false
  closed : Bool := false
  poisoned : Bool := false
deriving Repr, DecidableEq

namespace Intake

/-- An intake with all its slots free that is not ready yet. -/
def new (settings : Settings) : Intake := { settings := settings }

/-- The consumer is there: producers stop waiting.  Has no effect on a closed intake. -/
def markReady (intake : Intake) : Intake :=
  if intake.closed then intake else { intake with ready := true }

/-- Nothing makes the intake ready any more. -/
def markClosed (intake : Intake) : Intake := { intake with closed := true }

/-- Producers are no longer welcome. -/
def markUnready (intake : Intake) : Intake := { intake with ready := false }

/-- Close the intake for good, under the lock. -/
def withdraw (intake : Intake) : Intake := intake.markClosed.markUnready

/-- Let nobody wait for a request that will not come. -/
def closePending (intake : Intake) : Intake := { intake with pending := intake.pending.close }

/-- Refuse new requests, and let the consumer stop once the queued ones are served. -/
def shutDown (intake : Intake) : Intake := intake.withdraw.closePending

/-- Leave the lock behind as a thread does that dies while it holds it. -/
def poison (intake : Intake) : Intake := { intake with poisoned := true }

/-- Give a held slot back to the pool. -/
def vacate (intake : Intake) (i : SlotId) : Intake :=
  { intake with chains := intake.chains.putFree i }

/-- The number of slots producers can still use. -/
def freeCount (intake : Intake) : Nat := intake.chains.freeChain.length

/-- The number of requests waiting for the consumer. -/
def queuedCount (intake : Intake) : Nat := intake.chains.queueChain.length

end Intake

end AttachService
