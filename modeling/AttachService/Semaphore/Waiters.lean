/-
Module: AttachService.Semaphore.Waiters
Purpose: A semaphore together with the threads that wait for it.
Trusted boundary: none
Main exports: Waiters, Waiters.arrive, Waiters.release, Waiters.close, Waiters.recheck?,
  Waiters.stir?, Waiters.settle
-/
import AttachService.Semaphore.Basic

namespace AttachService

/-!
A thread that finds no unit falls asleep.  A release wakes one sleeper, closing wakes all of
them, and a sleeper may also wake for no reason.  A woken thread has taken nothing yet: it
looks again, as if it had just arrived, and a thread that arrives before that may be faster.

Sleepers are all alike, so they are counted; which of them wakes is the semaphore's choice.
-/

/-- A semaphore, how many threads sleep, and how many have woken and not looked again. -/
structure Waiters where
  semaphore : Semaphore
  asleep : Nat := 0
  woken : Nat := 0
deriving Repr, Inhabited, DecidableEq

namespace Waiters

/-- Look for a unit.  Says whether one was taken, or nothing if the thread fell asleep. -/
def look (w : Waiters) : Option Bool × Waiters :=
  match w.semaphore.acquire with
  | .granted s => (some true, { w with semaphore := s })
  | .refused => (some false, w)
  | .blocked => (none, { w with asleep := w.asleep + 1 })

/-- A thread comes to take a unit. -/
def arrive (w : Waiters) : Option Bool × Waiters := w.look

/-- Wake one sleeper, if there is one. -/
def wakeOne (w : Waiters) : Waiters :=
  match w.asleep with
  | 0 => w
  | asleep + 1 => { w with asleep := asleep, woken := w.woken + 1 }

/-- Wake all sleepers. -/
def wakeAll (w : Waiters) : Waiters := { w with asleep := 0, woken := w.woken + w.asleep }

/-- Add a unit and wake one sleeper.  Says whether there was room for the unit; if not,
nothing happens. -/
def release (w : Waiters) : Bool × Waiters :=
  match w.semaphore.release? with
  | some s => (true, wakeOne { w with semaphore := s })
  | none => (false, w)

/-- Close the semaphore and wake all sleepers. -/
def close (w : Waiters) : Waiters := wakeAll { w with semaphore := w.semaphore.close }

/-- A woken thread looks again. -/
def recheck? (w : Waiters) : Option (Option Bool × Waiters) :=
  match w.woken with
  | 0 => none
  | woken + 1 => some (look { w with woken := woken })

/-- A sleeper wakes for no reason. -/
def stir? (w : Waiters) : Option Waiters :=
  match w.asleep with
  | 0 => none
  | _ + 1 => some w.wakeOne

/-- Let so many woken threads look again, one after the other.  Gives the answers of those
that did not fall asleep again. -/
def recheckAll : (count : Nat) → Waiters → List Bool × Waiters
  | 0, w => ([], w)
  | count + 1, w =>
      match w.recheck? with
      | none => ([], w)
      | some (answer, w) =>
          let (answers, w) := recheckAll count w
          (answer.toList ++ answers, w)

/-- Let every woken thread look again. -/
def settle (w : Waiters) : List Bool × Waiters := recheckAll w.woken w

end Waiters

end AttachService
