/-
Module: AttachService.Version
Purpose: The two versions of an attach request.
Trusted boundary: none
Main exports: Version, Version.number, Version.ofNumber?, Version.supported
-/

namespace AttachService

/-- How a request carries its command and arguments. -/
inductive Version where
  /-- Inline, when it is submitted; its channel only carries the reply. -/
  | v1
  /-- On its channel, from which they are read when its turn comes. -/
  | v2
deriving Repr, Inhabited, DecidableEq

namespace Version

/-- The number a request states its version by. -/
def number : Version → UInt32
  | .v1 => 1
  | .v2 => 2

/-- The version with this number. -/
def ofNumber? (n : UInt32) : Option Version :=
  if n = 1 then some .v1
  else if n = 2 then some .v2
  else none

/-- The most recent version served.  Older ones are served as well. -/
def supported : Version := .v2

@[simp] theorem ofNumber?_number (v : Version) : ofNumber? v.number = some v := by
  cases v <;> rfl

/-- No two versions have one number. -/
theorem ofNumber?_eq_some_iff {n : UInt32} {v : Version} :
    ofNumber? n = some v ↔ n = v.number := by
  constructor
  · intro h
    unfold ofNumber? at h
    split at h
    · cases h
      assumption
    · split at h
      · cases h
        assumption
      · cases h
  · rintro rfl
    exact ofNumber?_number v

end Version

end AttachService
