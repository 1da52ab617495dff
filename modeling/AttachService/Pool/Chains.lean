/-
Module: AttachService.Pool.Chains
Purpose: A fixed set of slots on two chains that share their links: the free pool and the queue.
Trusted boundary: none
Main exports: Chains, Chains.initial, Chains.takeFree, Chains.putFree, Chains.append,
  Chains.takeHead, Chains.freeChain, Chains.queueChain, Chains.FreeCount, Chains.QueueCount
-/
import AttachService.Pool.Basic

namespace AttachService

/-!
Every slot has one link.  A free slot links to the slot that was freed before it, a queued
one to the slot that was queued after it.  A slot on neither chain is held by whoever took
it.  The pool is entered and left at its top, the queue is entered at its tail and left at
its head, so that each of the four moves touches at most two links.
-/

/-- The slots, the top of the free pool, and both ends of the queue. -/
structure Chains where
  slots : Vector Slot Limits.slots
  free : Option SlotId
  head : Option SlotId
  tail : Option SlotId
deriving Repr, DecidableEq

namespace Chains

/-- The slot with this number. -/
def slot (t : Chains) (i : SlotId) : Slot := t.slots[i]

/-- Replace a slot. -/
def setSlot (t : Chains) (i : SlotId) (slot : Slot) : Chains :=
  { t with slots := t.slots.set i slot }

/-- Let a slot link to another one, or to none. -/
def setNext (t : Chains) (i : SlotId) (next : Option SlotId) : Chains :=
  t.setSlot i { t.slot i with next := next }

/-- Take the top of the free pool. -/
def takeFree (t : Chains) : Option (SlotId × Chains) :=
  match t.free with
  | none => none
  | some i => some (i, { t.setNext i none with free := (t.slot i).next })

/-- Put a held slot on top of the free pool. -/
def putFree (t : Chains) (i : SlotId) : Chains :=
  { t.setNext i t.free with free := some i }

/-- Put a held slot at the tail of the queue. -/
def append (t : Chains) (i : SlotId) : Chains :=
  let cut := t.setNext i none
  match t.tail with
  | none => { cut with head := some i, tail := some i }
  | some last => { cut.setNext last (some i) with tail := some i }

/-- Take the head of the queue. -/
def takeHead (t : Chains) : Option (SlotId × Chains) :=
  match t.head with
  | none => none
  | some i =>
      let next := (t.slot i).next
      some (i, { t.setNext i none with
        head := next
        tail := if next.isNone then none else t.tail })

/-- Overwrite what a slot holds.  Says whether the submission fitted; if not, nothing is
changed. -/
def fill (t : Chains) (i : SlotId) (s : Submission) : Bool × Chains :=
  match (t.slot i).fill? s with
  | some slot => (true, t.setSlot i slot)
  | none => (false, t)

/-- All slots free, the one with the highest number on top. -/
def initial : Chains :=
  (List.finRange Limits.slots).foldl putFree
    { slots := Vector.replicate _ Slot.new, free := none, head := none, tail := none }

instance : Inhabited Chains := ⟨initial⟩

/-- The slots met on at most `steps` links from `start`. -/
def walk (t : Chains) : (steps : Nat) → (start : Option SlotId) → List SlotId
  | 0, _ => []
  | _ + 1, none => []
  | steps + 1, some i => i :: walk t steps (t.slot i).next

/-- The free slots, the next one to be taken first.  No chain is longer than the number of
slots. -/
def freeChain (t : Chains) : List SlotId := t.walk Limits.slots t.free

/-- The queued slots, the oldest first. -/
def queueChain (t : Chains) : List SlotId := t.walk Limits.slots t.head

/-- The loop that counts the slots on the links from one on.  It may go on for ever, and then
there is no total. -/
inductive Counts (t : Chains) : (cursor : Option SlotId) → (count total : Nat) → Prop where
  | done {count : Nat} : Counts t none count count
  | next {i : SlotId} {count total : Nat} :
      Counts t (t.slot i).next (count + 1) total → Counts t (some i) count total

/-- So many slots are free. -/
def FreeCount (t : Chains) (total : Nat) : Prop := t.Counts t.free 0 total

/-- So many slots are queued. -/
def QueueCount (t : Chains) (total : Nat) : Prop := t.Counts t.head 0 total

/-- What the queued slots hold, the oldest first. -/
def queued (t : Chains) : List Submission := t.queueChain.map fun i => (t.slot i).contents

end Chains

end AttachService
