/-
Module: AttachService.Proofs.Pool.Ledger
Purpose: Whatever is done to the slots, they behave as a stack of free numbers and a queue of
  numbers, and each slot holds what was last copied into it.
Trusted boundary: none
Main exports: Chains.Move, Chains.move, Ledger, Ledger.move, Ledger.Allowed, Ledger.Describes,
  Chains.Spares, Ledger.Accounts, Ledger.accounts_for_slots
-/
import AttachService.Proofs.Pool.Layout
import Mathlib.Data.List.Perm.Basic

namespace AttachService

/-!
A ledger knows nothing of links: it keeps the free numbers in a stack, the queued ones in a
queue, and the texts beside them.  The slots answer every move as their ledger does, as long as
nobody gives back a slot that he does not hold.
-/

/-! ### Moves -/

namespace Chains

/-- One thing that is done to the slots. -/
inductive Move where
  | takeFree
  | putFree (i : SlotId)
  | append (i : SlotId)
  | takeHead
  | fill (i : SlotId) (s : Submission)
deriving Repr, DecidableEq

/-- What is learnt by a move. -/
inductive Answer where
  /-- This slot was taken, or there was none. -/
  | taken (slot : Option SlotId)
  | put
  /-- The submission fitted, or it did not. -/
  | filled (fits : Bool)
deriving Repr, DecidableEq

/-- What is learnt by taking a slot, and what is left. -/
def grant {σ : Type} (s : σ) : Option (SlotId × σ) → Answer × σ
  | none => (.taken none, s)
  | some (i, s) => (.taken (some i), s)

/-- Make a move. -/
def move (t : Chains) : Move → Answer × Chains
  | .takeFree => grant t t.takeFree
  | .putFree i => (.put, t.putFree i)
  | .append i => (.put, t.append i)
  | .takeHead => grant t t.takeHead
  | .fill i s => (.filled (t.fill i s).1, (t.fill i s).2)

/-- Make moves one after the other, and gather the answers. -/
def run {σ : Type} (make : σ → Move → Answer × σ) : σ → List Move → List Answer × σ
  | s, [] => ([], s)
  | s, m :: moves =>
      let (answer, s) := make s m
      let (answers, s) := run make s moves
      (answer :: answers, s)

/-- What a move leaves as it was. -/
def Spares (t u : Chains) : Move → Prop
  | .fill i _ => u.free = t.free ∧ u.head = t.head ∧ u.tail = t.tail
      ∧ (∀ j, (u.slot j).next = (t.slot j).next) ∧ ∀ j, j ≠ i → u.slot j = t.slot j
  | .takeFree | .putFree _ | .append _ | .takeHead =>
      ∀ j, (u.slot j).contents = (t.slot j).contents

end Chains

open Chains

/-! ### Ledgers -/

/-- Where the slots are, and what they hold. -/
structure Ledger where
  /-- The free slots, the top one first. -/
  stack : List SlotId
  /-- The queued slots, the oldest first. -/
  queue : List SlotId
  /-- The slots that were taken and not given back since. -/
  held : List SlotId
  contents : SlotId → Submission

namespace Ledger

/-- At first all slots are free. -/
def initial : Ledger where
  stack := [3, 2, 1, 0]
  queue := []
  held := []
  contents := fun _ => Slot.new.contents

/-- Take the top of the stack. -/
def takeFree (p : Ledger) : Option (SlotId × Ledger) :=
  match p.stack with
  | [] => none
  | i :: rest => some (i, { p with stack := rest, held := i :: p.held })

/-- Take the head of the queue. -/
def takeHead (p : Ledger) : Option (SlotId × Ledger) :=
  match p.queue with
  | [] => none
  | i :: rest => some (i, { p with queue := rest, held := i :: p.held })

/-- Note what a slot holds now, if it fits. -/
def fill (p : Ledger) (i : SlotId) (s : Submission) : Ledger :=
  if s.Fits then { p with contents := fun j => if j = i then s else p.contents j } else p

/-- Make a move. -/
def move (p : Ledger) : Move → Answer × Ledger
  | .takeFree => grant p p.takeFree
  | .putFree i => (.put, { p with stack := i :: p.stack, held := p.held.erase i })
  | .append i => (.put, { p with queue := p.queue ++ [i], held := p.held.erase i })
  | .takeHead => grant p p.takeHead
  | .fill i s => (.filled (decide s.Fits), p.fill i s)

/-- Only a held slot is given back. -/
def Allows (p : Ledger) : Move → Prop
  | .putFree i | .append i => i ∈ p.held
  | .takeFree | .takeHead | .fill .. => True

/-- Only held slots are ever given back. -/
def Allowed : Ledger → List Move → Prop
  | _, [] => True
  | p, m :: moves => p.Allows m ∧ (p.move m).2.Allowed moves

instance (p : Ledger) : (m : Move) → Decidable (p.Allows m)
  | .putFree i => inferInstanceAs (Decidable (i ∈ p.held))
  | .append i => inferInstanceAs (Decidable (i ∈ p.held))
  | .takeFree | .takeHead | .fill .. => instDecidableTrue

instance decidableAllowed : (p : Ledger) → (moves : List Move) → Decidable (p.Allowed moves)
  | _, [] => instDecidableTrue
  | p, m :: moves =>
      have := decidableAllowed (p.move m).2 moves
      inferInstanceAs (Decidable (p.Allows m ∧ (p.move m).2.Allowed moves))

/-- The slots are as the ledger says. -/
structure Describes (p : Ledger) (t : Chains) : Prop where
  /-- The two chains are the stack and the queue, and every slot is in one place. -/
  layout : t.Layout p.stack p.queue p.held
  contents : ∀ i, (t.slot i).contents = p.contents i

variable {p : Ledger} {t : Chains} {i : SlotId} {moves : List Move}

/-- At first the ledger is right: all slots are free, and the last one is on top. -/
theorem describes_initial : initial.Describes Chains.initial where
  layout := layout_initial
  contents := by
    intro i
    rw [Chains.initial, contents_foldl_putFree, Chains.slot, Fin.getElem_fin,
      Vector.getElem_replicate]
    rfl

/-! ### One move -/

/-- A held slot may be thought of as the one that was taken last. -/
theorem Describes.layout_of_mem (describes : p.Describes t) (member : i ∈ p.held) :
    t.Layout p.stack p.queue (i :: p.held.erase i) :=
  describes.layout.congr_held (List.perm_cons_erase member).symm

/-- The slots and the ledger have the same one on top. -/
theorem Describes.takeFree (describes : p.Describes t) :
    (grant t t.takeFree).1 = (grant p p.takeFree).1
      ∧ (grant p p.takeFree).2.Describes (grant t t.takeFree).2 := by
  have layout := describes.layout
  cases top : p.stack with
  | nil =>
      rw [top] at layout
      have nothing : p.takeFree = none := by
        rw [Ledger.takeFree, top]
      rw [layout.takeFree_nil, nothing]
      exact ⟨rfl, describes⟩
  | cons i rest =>
      rw [top] at layout
      obtain ⟨u, took, later, texts⟩ := layout.takeFree_cons
      have noted : p.takeFree = some (i, { p with stack := rest, held := i :: p.held }) := by
        rw [Ledger.takeFree, top]
      rw [took, noted]
      exact ⟨rfl, later, fun j => (texts j).trans (describes.contents j)⟩

/-- The slots and the ledger have the same one at the head of the queue. -/
theorem Describes.takeHead (describes : p.Describes t) :
    (grant t t.takeHead).1 = (grant p p.takeHead).1
      ∧ (grant p p.takeHead).2.Describes (grant t t.takeHead).2 := by
  have layout := describes.layout
  cases front : p.queue with
  | nil =>
      rw [front] at layout
      have nothing : p.takeHead = none := by
        rw [Ledger.takeHead, front]
      rw [layout.takeHead_nil, nothing]
      exact ⟨rfl, describes⟩
  | cons i rest =>
      rw [front] at layout
      obtain ⟨u, took, later, texts⟩ := layout.takeHead_cons
      have noted : p.takeHead = some (i, { p with queue := rest, held := i :: p.held }) := by
        rw [Ledger.takeHead, front]
      rw [took, noted]
      exact ⟨rfl, later, fun j => (texts j).trans (describes.contents j)⟩

/-- The slots and the ledger agree on what fits. -/
theorem Describes.fill (describes : p.Describes t) (i : SlotId) (s : Submission) :
    (t.fill i s).1 = decide s.Fits ∧ (p.fill i s).Describes (t.fill i s).2 := by
  have layout := describes.layout.fill i s
  by_cases fits : s.Fits
  · obtain ⟨slot, filled, -, -⟩ := (t.slot i).exists_fill?_of_fits fits
    have said : (t.fill i s).1 = true := by
      rw [Chains.fill, filled]
    rw [said, decide_eq_true fits, Ledger.fill, if_pos fits]
    refine ⟨rfl, layout, ?_⟩
    intro j
    dsimp only
    by_cases same : j = i
    · rw [if_pos same, same]
      exact contents_fill_self t i fits
    · rw [if_neg same, contents_fill_of_ne t s same]
      exact describes.contents j
  · have refused : (t.slot i).fill? s = none := if_neg fits
    have unchanged : t.fill i s = (false, t) := by
      rw [Chains.fill, refused]
    rw [unchanged, decide_eq_false fits, Ledger.fill, if_neg fits]
    exact ⟨rfl, describes⟩

/-- The slots answer a move as their ledger does, and go on being as it says. -/
theorem Describes.move (describes : p.Describes t) {m : Move} (allowed : p.Allows m) :
    (t.move m).1 = (p.move m).1 ∧ (p.move m).2.Describes (t.move m).2 := by
  cases m with
  | takeFree => exact describes.takeFree
  | putFree i =>
      refine ⟨rfl, (describes.layout_of_mem allowed).putFree, ?_⟩
      intro j
      exact (contents_putFree t i j).trans (describes.contents j)
  | append i =>
      refine ⟨rfl, (describes.layout_of_mem allowed).append, ?_⟩
      intro j
      exact (contents_append t i j).trans (describes.contents j)
  | takeHead => exact describes.takeHead
  | fill i s =>
      obtain ⟨said, later⟩ := describes.fill i s
      exact ⟨congrArg Answer.filled said, later⟩

/-! ### Many moves -/

/-- Move by move, the ledger stays right, and foretells all that is learnt. -/
theorem Describes.run (describes : p.Describes t) (allowed : p.Allowed moves) :
    (Chains.run Chains.move t moves).1 = (Chains.run Ledger.move p moves).1
      ∧ (Chains.run Ledger.move p moves).2.Describes (Chains.run Chains.move t moves).2 := by
  induction moves generalizing p t with
  | nil => exact ⟨rfl, describes⟩
  | cons m moves ih =>
      obtain ⟨now, later⟩ := allowed
      obtain ⟨same, next⟩ := describes.move now
      obtain ⟨others, last⟩ := ih next later
      rw [Chains.run, Chains.run]
      exact ⟨congrArg₂ List.cons same others, last⟩

end Ledger

/-! ### The loop that counts, and the ends of the queue -/

namespace Chains

variable {t : Chains} {start : Option SlotId} {l free queue held : List SlotId}

/-- The loop has one total, if any. -/
theorem Counts.unique {count total other : Nat} (counts : t.Counts start count total)
    (again : t.Counts start count other) : total = other := by
  induction counts with
  | done =>
      cases again
      rfl
  | next _ ih =>
      cases again with
      | next beyond => exact ih beyond

/-- Counting a chain comes to its end. -/
theorem Linked.counts (linked : t.Linked start l) (count : Nat) :
    t.Counts start count (count + l.length) := by
  induction l generalizing start count with
  | nil =>
      cases linked
      exact .done
  | cons i rest ih =>
      obtain ⟨rfl, beyond⟩ := linked
      have further := ih beyond (count + 1)
      rw [Nat.add_right_comm] at further
      exact .next further

/-- Who follows the links counts the slots that they lead through, and comes to an end. -/
theorem Linked.counts_iff (linked : t.Linked start l) {total : Nat} :
    t.Counts start 0 total ↔ total = l.length := by
  have counts := linked.counts 0
  rw [Nat.zero_add] at counts
  constructor
  · intro again
    exact again.unique counts
  · rintro rfl
    exact counts

/-- A queue has a last slot if it has a first one. -/
theorem Layout.tail_eq_none_iff (layout : t.Layout free queue held) :
    t.tail = none ↔ t.head = none := by
  rw [layout.tailLast, List.getLast?_eq_none_iff]
  cases queue with
  | nil =>
      have empty : t.head = none := layout.queueLinked
      rw [empty]
      exact iff_of_true rfl rfl
  | cons i rest =>
      obtain ⟨front, -⟩ := layout.queueLinked
      rw [front]
      exact iff_of_false (List.cons_ne_nil i rest) nofun

/-- A move of a slot changes no request, and a request that is copied moves no slot. -/
theorem spares_move (t : Chains) (m : Move) : t.Spares (t.move m).2 m := by
  cases m with
  | takeFree =>
      intro j
      rw [move, takeFree]
      cases t.free with
      | none => rfl
      | some i => exact contents_setNext t i j none
  | putFree i => exact contents_putFree t i
  | append i => exact contents_append t i
  | takeHead =>
      intro j
      rw [move, takeHead]
      cases t.head with
      | none => rfl
      | some i => exact contents_setNext t i j none
  | fill i s =>
      obtain ⟨top, front, back⟩ := ends_fill t i s
      exact ⟨top, front, back, next_fill t i s, fun j other => slot_fill_of_ne t s other⟩

end Chains

/-- Slots that are kept like a stack and a queue of their numbers: the two chains have no slot
twice and none in common, and with the held slots they are all slots. -/
structure Ledger.Accounts (p : Ledger) (t : Chains) : Prop where
  describes : p.Describes t
  /-- The chains end, and so does the loop that counts their slots. -/
  freeCount : ∀ total, t.FreeCount total ↔ total = p.stack.length
  queueCount : ∀ total, t.QueueCount total ↔ total = p.queue.length
  chains : t.freeChain = p.stack ∧ t.queueChain = p.queue
  apart : p.stack.Nodup ∧ p.queue.Nodup ∧ p.stack.Disjoint p.queue
  tail : t.tail = p.queue.getLast?
  ends : t.tail = none ↔ t.head = none

/-- Whatever is done to the slots, if only held ones are given back the answers are those of the
ledger, which accounts for all slots in the end; and no move touches more than it has to. -/
theorem Ledger.accounts_for_slots (moves : List Move) (allowed : Ledger.initial.Allowed moves) :
    (Chains.run Chains.move .initial moves).1 = (Chains.run Ledger.move .initial moves).1
      ∧ (Chains.run Ledger.move .initial moves).2.Accounts
        (Chains.run Chains.move .initial moves).2
      ∧ ∀ (t : Chains) (m : Move), t.Spares (t.move m).2 m := by
  obtain ⟨answers, describes⟩ := describes_initial.run allowed
  have layout := describes.layout
  refine ⟨answers, ?_, spares_move⟩
  exact {
    describes := describes
    freeCount := fun _ => layout.freeLinked.counts_iff
    queueCount := fun _ => layout.queueLinked.counts_iff
    chains := ⟨layout.freeChain_eq, layout.queueChain_eq⟩
    apart := ⟨layout.free_nodup, layout.queue_nodup,
      List.disjoint_of_nodup_append layout.nodup.of_append_left⟩
    tail := layout.tailLast
    ends := layout.tail_eq_none_iff }

/-- The slot that was queued first is free again, and taken again, while the next one waits. -/
theorem Ledger.accounts_for_slots_used_again :
    (Chains.run Chains.move .initial [.takeFree, .append 3, .takeFree, .append 2, .takeHead,
        .putFree 3, .takeFree]).1
      = [.taken (some 3), .put, .taken (some 2), .put, .taken (some 3), .put, .taken (some 3)] := by
  have allowed : Ledger.initial.Allowed [.takeFree, .append 3, .takeFree, .append 2, .takeHead,
      .putFree 3, .takeFree] := by
    decide
  exact (Ledger.accounts_for_slots _ allowed).1

end AttachService
