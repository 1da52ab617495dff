/-
Module: AttachService.Semaphore.WaitingRoom
Purpose: A semaphore and the threads that come to it, each told from the others.
Trusted boundary: none
Main exports: Guest, WaitingRoom, WaitingRoom.Incident, WaitingRoom.Step, WaitingRoom.Run,
  WaitingRoom.counted
-/
import AttachService.Semaphore.Waiters

namespace AttachService

/-!
Whatever a thread does to a semaphore it does under a lock, and it gives the lock up in the same
moment in which it falls asleep.  So every step is made in one go, but the steps of different
threads may come in any order: which sleeper a release wakes, when a sleeper wakes for no reason
and who looks first after a release is left open.
-/

/-- What a thread is doing about a semaphore. -/
inductive Guest where
  /-- It does not wait.  It may come at any time. -/
  | away
  /-- It waits to be woken. -/
  | asleep
  /-- It was woken, and has not looked again. -/
  | woken
deriving Repr, Inhabited, DecidableEq

/-- Wake a thread if it sleeps. -/
def Guest.roused : Guest → Guest
  | .asleep | .woken => .woken
  | .away => .away

/-- A semaphore and all threads that ever come to it. -/
structure WaitingRoom where
  semaphore : Semaphore
  guests : List Guest
deriving Repr, Inhabited, DecidableEq

namespace WaitingRoom

/-- At first nobody waits. -/
def start (guests initial max : Nat) : WaitingRoom where
  semaphore := .new initial max
  guests := List.replicate guests .away

/-- What happens in one step. -/
inductive Incident where
  /-- Somebody added a unit, or there was no room for it. -/
  | released (fitted : Bool)
  /-- A thread looked for a unit.  It took one, was told that none will come, or fell asleep. -/
  | looked (guest : Nat) (answer : Option Bool)
  | closed
  /-- A thread woke for no reason. -/
  | stirred (guest : Nat)
deriving Repr, Inhabited, DecidableEq

namespace Incident

/-- A unit was taken. -/
def takes : Incident → Bool
  | .looked _ answer => answer == some true
  | .released _ | .closed | .stirred _ => false

end Incident

/-- One step of one thread.  Only a thread that sleeps cannot look for a unit: one that comes anew
may do so before one that was woken. -/
inductive Step : WaitingRoom → Incident → WaitingRoom → Prop where
  | overflow {r} : r.semaphore.release? = none → Step r (.released false) r
  /-- One of the sleepers is woken, and it may be any of them. -/
  | rouse {r s} (i : Nat) : r.semaphore.release? = some s → r.guests[i]? = some .asleep →
      Step r (.released true) ⟨s, r.guests.set i .woken⟩
  | unheard {r s} : r.semaphore.release? = some s → .asleep ∉ r.guests →
      Step r (.released true) ⟨s, r.guests⟩
  | granted {r s i g} : r.guests[i]? = some g → g ≠ .asleep → r.semaphore.acquire = .granted s →
      Step r (.looked i (some true)) ⟨s, r.guests.set i .away⟩
  | refused {r i g} : r.guests[i]? = some g → g ≠ .asleep → r.semaphore.acquire = .refused →
      Step r (.looked i (some false)) ⟨r.semaphore, r.guests.set i .away⟩
  | blocked {r i g} : r.guests[i]? = some g → g ≠ .asleep → r.semaphore.acquire = .blocked →
      Step r (.looked i none) ⟨r.semaphore, r.guests.set i .asleep⟩
  | close {r} : Step r .closed ⟨r.semaphore.close, r.guests.map Guest.roused⟩
  | stir {r i} : r.guests[i]? = some .asleep →
      Step r (.stirred i) ⟨r.semaphore, r.guests.set i .woken⟩

/-- The room when sleepers are not told from one another, nor woken threads. -/
def counted (r : WaitingRoom) : Waiters where
  semaphore := r.semaphore
  asleep := r.guests.count .asleep
  woken := r.guests.count .woken

end WaitingRoom

end AttachService
