/-
Module: AttachService.Refusal
Purpose: Why a submitted request is not accepted.
Trusted boundary: none
Main exports: Refusal, Refusal.code, Refusal.ofCode?, Refusal.message
-/

namespace AttachService

/-- Why a producer's request is not accepted. -/
inductive Refusal where
  /-- The service is not ready, or no longer. -/
  | disabled
  /-- All slots are in use. -/
  | exhausted
  /-- A field is too long, or the channel is not one of the service's. -/
  | illegal
  /-- A lock was left unusable. -/
  | broken
deriving Repr, Inhabited, DecidableEq

namespace Refusal

/-- The number a producer that cannot read words gets. -/
def code : Refusal → Int32
  | .disabled => 100
  | .exhausted => 101
  | .illegal => 102
  | .broken => 103

/-- The refusal with this number. -/
def ofCode? (n : Int32) : Option Refusal :=
  [disabled, exhausted, illegal, broken].find? fun r => r.code = n

/-- The words for a refusal. -/
def message : Refusal → String
  | .disabled => "attach listener is disabled"
  | .exhausted => "too many pending attach operations"
  | .illegal => "illegal attach argument"
  | .broken => "internal attach error"

@[simp] theorem ofCode?_code (r : Refusal) : ofCode? r.code = some r := by
  cases r <;> decide

end Refusal

end AttachService
