/-
Module: AttachService.Pool.Basic
Purpose: What a producer submits, and the preallocated slot that holds it until its turn.
Trusted boundary: none
Main exports: Submission, Submission.Fits, SlotId, Slot, Slot.fill?
-/
import AttachService.Limits
import AttachService.Pool.Text
import AttachService.Version

namespace AttachService

/-- A request as a producer submits it.  The version is any number: one that is not
supported is found out by the consumer. -/
structure Submission where
  version : UInt32
  name : String
  args : Vector String Limits.arguments
  channel : String
deriving Repr, DecidableEq

/-- Every field of the submission fits its buffer in a slot. -/
def Submission.Fits (s : Submission) : Prop :=
  s.name.utf8ByteSize ≤ Limits.nameBytes
    ∧ (∀ arg ∈ s.args.toList, arg.utf8ByteSize ≤ Limits.argumentBytes)
    ∧ s.channel.utf8ByteSize ≤ Limits.channelBytes

instance (s : Submission) : Decidable s.Fits := by
  unfold Submission.Fits
  infer_instance

/-- The number of a slot. -/
abbrev SlotId : Type := Fin Limits.slots

/-- The buffers for one pending request, and the link to the next slot of its chain. -/
structure Slot where
  version : UInt32
  nameText : BoundedText Limits.nameBytes
  argTexts : Vector (BoundedText Limits.argumentBytes) Limits.arguments
  channelText : BoundedText Limits.channelBytes
  next : Option SlotId
deriving Repr, DecidableEq

namespace Slot

/-- A slot that never held a request. -/
def new : Slot where
  version := Version.v1.number
  nameText := .empty _
  argTexts := Vector.replicate _ (.empty _)
  channelText := .empty _
  next := none

instance : Inhabited Slot := ⟨new⟩

/-- The command. -/
def name (slot : Slot) : String := slot.nameText.text

/-- Argument `i`, empty when there is none. -/
def arg (slot : Slot) (i : Nat) : String :=
  match slot.argTexts[i]? with
  | some text => text.text
  | none => ""

/-- All arguments, in order. -/
def args (slot : Slot) : Vector String Limits.arguments := slot.argTexts.map (·.text)

/-- The name of the channel. -/
def channel (slot : Slot) : String := slot.channelText.text

/-- What the slot holds. -/
def contents (slot : Slot) : Submission where
  version := slot.version
  name := slot.name
  args := slot.args
  channel := slot.channel

/-- Overwrite every buffer with the fields of a submission, unless one of them is too
long.  The link is not touched. -/
def fill? (slot : Slot) (s : Submission) : Option Slot :=
  if s.Fits then
    some { slot with
      version := s.version
      nameText := slot.nameText.put s.name
      argTexts := Vector.zipWith (·.put ·) slot.argTexts s.args
      channelText := slot.channelText.put s.channel }
  else
    none

end Slot

end AttachService
