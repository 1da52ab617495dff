/-
Module: AttachService.Semaphore.Basic
Purpose: A counting semaphore with a largest count that can be closed.
Trusted boundary: none
Main exports: Semaphore, Semaphore.release?, Semaphore.acquire, Semaphore.close,
  Semaphore.release?_eq_some_iff, Semaphore.acquire_eq_granted_iff
-/

namespace AttachService

/-- The state of a semaphore. -/
structure Semaphore where
  count : Nat
  max : Nat
  closed : Bool := false
deriving Repr, Inhabited, DecidableEq

/-- What an attempt to take a unit comes to. -/
inductive Acquired where
  /-- A unit was taken. -/
  | granted (s : Semaphore)
  /-- No unit is left and none will come. -/
  | refused
  /-- No unit is left; one may come. -/
  | blocked
deriving Repr, Inhabited, DecidableEq

namespace Semaphore

/-- A semaphore that starts with `initial` units, as far as they fit. -/
def new (initial max : Nat) : Semaphore := { count := min initial max, max := max }

/-- Add a unit, unless the count is at its largest. -/
def release? (s : Semaphore) : Option Semaphore :=
  if s.max ≤ s.count then none else some { s with count := s.count + 1 }

/-- Try to take a unit.  A closed semaphore gives out what it still has. -/
def acquire (s : Semaphore) : Acquired :=
  match s.count with
  | count + 1 => .granted { s with count := count }
  | 0 => if s.closed then .refused else .blocked

/-- Let nobody wait any longer. -/
def close (s : Semaphore) : Semaphore := { s with closed := true }

variable {s t : Semaphore}

theorem count_of_acquire (h : s.acquire = .granted t) :
    s.count = t.count + 1 := by
  unfold acquire at h
  split at h
  · cases h
    assumption
  · split at h <;> cases h

/-- A unit is refused only at the largest count. -/
theorem release?_eq_none_iff : s.release? = none ↔ s.max ≤ s.count := by
  unfold release?
  split
  · next full => simp [full]
  · next room => simp [room]

theorem release?_eq_some_iff :
    s.release? = some t ↔ s.count < s.max ∧ t = { s with count := s.count + 1 } := by
  unfold release?
  split
  · next full => simp [Nat.not_lt.2 full]
  · next room => simp [Nat.not_le.1 room, eq_comm]

/-- A unit is granted as long as there is one, closed or not. -/
theorem acquire_eq_granted_iff :
    s.acquire = .granted t ↔ ∃ count, s.count = count + 1 ∧ t = { s with count := count } := by
  unfold acquire
  split
  · next count left => simp [left, eq_comm]
  · next empty =>
      split
      · simp [empty]
      · simp [empty]

/-- Nobody is refused before all units are gone. -/
theorem acquire_eq_refused_iff : s.acquire = .refused ↔ s.count = 0 ∧ s.closed = true := by
  unfold acquire
  split
  · next count left => simp [left]
  · next empty =>
      split
      · next shut => simp [empty, shut]
      · next unshut => simp [empty, unshut]

/-- Whoever finds no unit waits, unless there will be none. -/
theorem acquire_eq_blocked_iff : s.acquire = .blocked ↔ s.count = 0 ∧ s.closed = false := by
  unfold acquire
  split
  · next count left => simp [left]
  · next empty =>
      split
      · next shut => simp [empty, shut]
      · next unshut => simp [empty, unshut]

end Semaphore

end AttachService
