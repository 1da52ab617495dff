/-
Module: AttachService.Pool.Copies
Purpose: Texts and slots that are overwritten again and again, and copies of them.
Trusted boundary: none
Main exports: BoundedText.Edit, BoundedText.edit, Slot.Edit, Slot.edit, Copies.Step, Copies.step,
  Copies.after, Copies.histories
-/
import AttachService.Pool.Basic

namespace AttachService

/-!
A text and a slot are overwritten in their place.  A copy has a buffer of its own, in which
everything is as it was in the buffer that was copied, the bytes behind the text included.
-/

namespace BoundedText

variable {capacity : Nat}

/-- What is done to a text. -/
inductive Edit where
  | put (s : String)
  | clear
deriving Repr, DecidableEq

/-- Overwrite a text, or make it empty.  Says of a text that was to be put whether it was. -/
def edit (t : BoundedText capacity) : Edit → Option Bool × BoundedText capacity
  | .put s =>
      match t.put? s with
      | some u => (some true, u)
      | none => (some false, t)
  | .clear => (none, t.clear)

end BoundedText

namespace Slot

/-- What is done to a slot. -/
inductive Edit where
  | fill (s : Submission)
  /-- Whoever has the slot in a chain says which one comes after it. -/
  | link (next : Option SlotId)
deriving Repr, DecidableEq

/-- Fill a slot, or link it.  Says of a submission whether the slot was filled with it. -/
def edit (slot : Slot) : Edit → Option Bool × Slot
  | .fill s =>
      match slot.fill? s with
      | some filled => (some true, filled)
      | none => (some false, slot)
  | .link next => (none, { slot with next := next })

end Slot

namespace Copies

variable {σ α β : Type}

/-- What is done to copies of something, which have numbers. -/
inductive Step (α : Type) where
  | edit (k : Nat) (e : α)
  /-- Make one more copy, after all that there are. -/
  | clone (k : Nat)
deriving Repr, DecidableEq

/-- Do one thing.  Nothing happens if there is no copy with the number. -/
def step (edit : σ → α → β × σ) (all : List σ) : Step α → List σ
  | .edit k e => all.modify k fun one => (edit one e).2
  | .clone k => all ++ all[k]?.toList

/-- The copies after one thing after the other. -/
def after (edit : σ → α → β × σ) (all : List σ) (steps : List (Step α)) : List σ :=
  steps.foldl (step edit) all

/-- What was done to each copy, the newest first.  A copy has a part in what was done before it
was made. -/
def histories (steps : List (Step α)) : List (List α) :=
  after (fun history e => ((), e :: history)) [[]] steps

end Copies

end AttachService
