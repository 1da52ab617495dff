/-
Module: AttachService.Proofs.Pool.Layout
Purpose: The two chains as a stack and a queue of slot numbers, and what each move does to them.
Trusted boundary: none
Main exports: Chains.Linked, Chains.Layout, Chains.Layout.takeFree_cons,
  Chains.Layout.putFree, Chains.Layout.append, Chains.Layout.takeHead_cons,
  Chains.next_fill, Chains.slot_fill_of_ne, Chains.Layout.fill, Chains.layout_initial
-/
import AttachService.Pool.Chains
import AttachService.Proofs.Pool.Slots
import Mathlib.Data.List.Nodup

namespace AttachService.Chains

/-!
`freeChain` and `queueChain` follow the links for at most as many steps as there are slots.
`Linked` says more: the links lead through exactly these slots and then end.  `Layout` puts
both chains together with the slots that are on neither, and accounts for every slot once.
-/

variable {t u : Chains} {i j : SlotId} {start : Option SlotId} {l : List SlotId}

/-! ### Single slots -/

@[simp] theorem slot_setSlot_self (t : Chains) (i : SlotId) (slot : Slot) :
    (t.setSlot i slot).slot i = slot := by
  simp [setSlot, Chains.slot]

theorem slot_setSlot_of_ne (t : Chains) (slot : Slot) (other : j ≠ i) :
    (t.setSlot i slot).slot j = t.slot j := by
  have numbers : (i : Nat) ≠ (j : Nat) := fun same => other (Fin.ext same.symm)
  simp [setSlot, Chains.slot, numbers]

@[simp] theorem next_setNext_self (t : Chains) (i : SlotId) (next : Option SlotId) :
    ((t.setNext i next).slot i).next = next := by
  simp [setNext]

theorem next_setNext_of_ne (t : Chains) (next : Option SlotId) (other : j ≠ i) :
    ((t.setNext i next).slot j).next = (t.slot j).next := by
  rw [setNext, slot_setSlot_of_ne t _ other]

@[simp] theorem contents_setNext (t : Chains) (i j : SlotId) (next : Option SlotId) :
    ((t.setNext i next).slot j).contents = (t.slot j).contents := by
  by_cases same : j = i
  · subst same
    simp [setNext, Slot.contents, Slot.name, Slot.args, Slot.channel]
  · rw [setNext, slot_setSlot_of_ne t _ same]

/-- Only links are written when a slot is given back. -/
@[simp] theorem contents_putFree (t : Chains) (i j : SlotId) :
    ((t.putFree i).slot j).contents = (t.slot j).contents :=
  contents_setNext t i j t.free

theorem contents_foldl_putFree (l : List SlotId) (t : Chains) (j : SlotId) :
    ((l.foldl putFree t).slot j).contents = (t.slot j).contents := by
  induction l generalizing t with
  | nil => rfl
  | cons i rest ih => exact (ih (t.putFree i)).trans (contents_putFree t i j)

/-- Only links are written when a slot is queued. -/
@[simp] theorem contents_append (t : Chains) (i j : SlotId) :
    ((t.append i).slot j).contents = (t.slot j).contents := by
  unfold Chains.append
  cases t.tail with
  | none => exact contents_setNext t i j none
  | some last =>
      exact (contents_setNext (t.setNext i none) last j (some i)).trans
        (contents_setNext t i j none)

/-- Copying into a slot is no matter of the ends of the chains. -/
theorem ends_fill (t : Chains) (i : SlotId) (s : Submission) :
    (t.fill i s).2.free = t.free ∧ (t.fill i s).2.head = t.head ∧ (t.fill i s).2.tail = t.tail := by
  unfold Chains.fill
  split <;> exact ⟨rfl, rfl, rfl⟩

/-- The links stay, also that of the slot that is copied into. -/
theorem next_fill (t : Chains) (i : SlotId) (s : Submission) (j : SlotId) :
    ((t.fill i s).2.slot j).next = (t.slot j).next := by
  unfold Chains.fill
  split
  · next slot filled =>
      by_cases same : j = i
      · subst same
        rw [slot_setSlot_self, Slot.next_of_fill? filled]
      · rw [slot_setSlot_of_ne t slot same]
  · rfl

/-- A request is copied into its own slot only. -/
theorem slot_fill_of_ne (t : Chains) (s : Submission) (other : j ≠ i) :
    (t.fill i s).2.slot j = t.slot j := by
  unfold Chains.fill
  split
  · rw [slot_setSlot_of_ne t _ other]
  · rfl

/-! ### Links -/

/-- The links lead from `start` through exactly these slots, and end there. -/
def Linked (t : Chains) : (start : Option SlotId) → List SlotId → Prop
  | start, [] => start = none
  | start, i :: rest => start = some i ∧ t.Linked (t.slot i).next rest

/-- Only the links of the slots on a chain matter to it. -/
theorem Linked.congr (linked : t.Linked start l)
    (same : ∀ j ∈ l, (u.slot j).next = (t.slot j).next) : u.Linked start l := by
  induction l generalizing start with
  | nil => exact linked
  | cons i rest ih =>
      obtain ⟨here, beyond⟩ := linked
      refine ⟨here, ?_⟩
      rw [same i List.mem_cons_self]
      exact ih beyond fun j member => same j (List.mem_cons_of_mem i member)

/-- A chain does not notice what becomes of the link of a slot that is not on it. -/
theorem Linked.setNext {next : Option SlotId} (linked : t.Linked start l) (absent : i ∉ l)
    (slots : u.slots = (t.setNext i next).slots) : u.Linked start l := by
  refine linked.congr ?_
  intro j member
  have other : j ≠ i := by
    rintro rfl
    exact absent member
  rw [← next_setNext_of_ne t next other, Chains.slot, Chains.slot, slots]

/-- Whoever follows the links of a chain meets its slots, if he goes far enough. -/
theorem Linked.walk_eq (linked : t.Linked start l) {steps : Nat} (enough : l.length ≤ steps) :
    t.walk steps start = l := by
  induction l generalizing start steps with
  | nil =>
      cases linked
      cases steps <;> rfl
  | cons i rest ih =>
      obtain ⟨rfl, beyond⟩ := linked
      cases steps with
      | zero => simp at enough
      | succ steps =>
          rw [List.length_cons] at enough
          rw [walk, ih beyond (Nat.le_of_succ_le_succ enough)]

/-- The last link of a chain is its only open end: hanging a slot there makes the chain one
slot longer. -/
theorem Linked.extend {last : SlotId} (linked : t.Linked start (l ++ [last]))
    (absent : last ∉ l) (fresh : i ∉ l ++ [last]) (unlinked : (t.slot i).next = none) :
    (t.setNext last (some i)).Linked start (l ++ [last] ++ [i]) := by
  have apart : i ≠ last := by
    rintro rfl
    exact fresh (by simp)
  induction l generalizing start with
  | nil =>
      obtain ⟨here, -⟩ := linked
      refine ⟨here, ?_, ?_⟩
      · exact next_setNext_self t last (some i)
      · rw [next_setNext_of_ne t _ apart]
        exact unlinked
  | cons k rest ih =>
      obtain ⟨here, beyond⟩ := linked
      have before : k ≠ last := by
        rintro rfl
        exact absent List.mem_cons_self
      refine ⟨here, ?_⟩
      rw [next_setNext_of_ne t _ before]
      exact ih beyond (fun member => absent (List.mem_cons_of_mem k member))
        (fun member => fresh (List.mem_cons_of_mem k member))

/-! ### The layout -/

/-- The free slots, the next one to be taken first, the queued ones, the oldest first, and
the slots that are on neither chain.  Every slot is in exactly one of the three. -/
structure Layout (t : Chains) (free queue held : List SlotId) : Prop where
  freeLinked : t.Linked t.free free
  queueLinked : t.Linked t.head queue
  tailLast : t.tail = queue.getLast?
  places : (free ++ queue ++ held).Perm (List.finRange Limits.slots)

namespace Layout

variable {free queue held : List SlotId}

/-- No slot is in two places. -/
theorem nodup (layout : t.Layout free queue held) : (free ++ queue ++ held).Nodup :=
  layout.places.nodup_iff.2 (List.nodup_finRange _)

/-- Every slot is somewhere. -/
theorem length_eq (layout : t.Layout free queue held) :
    free.length + queue.length + held.length = Limits.slots := by
  have same := layout.places.length_eq
  rwa [List.length_append, List.length_append, List.length_finRange] at same

/-- Following the links finds the free slots. -/
theorem freeChain_eq (layout : t.Layout free queue held) : t.freeChain = free := by
  have total := layout.length_eq
  exact layout.freeLinked.walk_eq (by omega)

/-- Following the links finds the queued slots. -/
theorem queueChain_eq (layout : t.Layout free queue held) : t.queueChain = queue := by
  have total := layout.length_eq
  exact layout.queueLinked.walk_eq (by omega)

/-- What is queued is read off the slots, in the order of the queue. -/
theorem queued_eq (layout : t.Layout free queue held) :
    t.queued = queue.map fun i => (t.slot i).contents := by
  rw [queued, layout.queueChain_eq]

/-- The slots on neither chain have no order. -/
theorem congr_held {held' : List SlotId} (layout : t.Layout free queue held)
    (same : held'.Perm held) : t.Layout free queue held' :=
  ⟨layout.freeLinked, layout.queueLinked, layout.tailLast, (same.append_left _).trans layout.places⟩

/-- The layout is all in the links and the ends of the chains. -/
theorem congr (layout : t.Layout free queue held)
    (links : ∀ j, (u.slot j).next = (t.slot j).next)
    (top : u.free = t.free) (front : u.head = t.head) (back : u.tail = t.tail) :
    u.Layout free queue held where
  freeLinked := by
    rw [top]
    exact layout.freeLinked.congr fun j _ => links j
  queueLinked := by
    rw [front]
    exact layout.queueLinked.congr fun j _ => links j
  tailLast := by
    rw [back]
    exact layout.tailLast
  places := layout.places

theorem free_nodup (layout : t.Layout free queue held) : free.Nodup :=
  layout.nodup.of_append_left.of_append_left

theorem queue_nodup (layout : t.Layout free queue held) : queue.Nodup :=
  layout.nodup.of_append_left.of_append_right

/-- A queued slot is nowhere else. -/
theorem of_mem_queue (layout : t.Layout free queue held) (member : i ∈ queue) :
    i ∉ free ∧ i ∉ held := by
  have distinct := layout.nodup
  constructor
  · intro idle
    exact List.disjoint_of_nodup_append distinct.of_append_left idle member
  · intro taken
    exact List.disjoint_of_nodup_append distinct (List.mem_append_right _ member) taken

/-- A slot in somebody's hands is nowhere else. -/
theorem of_mem_held (layout : t.Layout free queue held) (member : i ∈ held) :
    i ∉ free ∧ i ∉ queue := by
  have apart := List.disjoint_of_nodup_append layout.nodup
  constructor
  · intro idle
    exact apart (List.mem_append_left _ idle) member
  · intro queued
    exact apart (List.mem_append_right _ queued) member

/-! ### Moves -/

/-- If none is free, none can be taken. -/
theorem takeFree_nil (layout : t.Layout [] queue held) : t.takeFree = none := by
  have empty : t.free = none := layout.freeLinked
  rw [takeFree, empty]

/-- The top of the pool changes hands. -/
theorem takeFree_cons (layout : t.Layout (i :: free) queue held) :
    ∃ u, t.takeFree = some (i, u) ∧ u.Layout free queue (i :: held)
      ∧ ∀ j, (u.slot j).contents = (t.slot j).contents := by
  obtain ⟨top, beyond⟩ := layout.freeLinked
  have notFree : i ∉ free := (List.nodup_cons.1 layout.free_nodup).1
  have notQueued : i ∉ queue := fun queued => (layout.of_mem_queue queued).1 List.mem_cons_self
  refine ⟨{ t.setNext i none with free := (t.slot i).next }, ?_, ?_, ?_⟩
  · rw [takeFree, top]
  · exact {
      freeLinked := beyond.setNext notFree rfl
      queueLinked := layout.queueLinked.setNext notQueued rfl
      tailLast := layout.tailLast
      places := List.perm_middle.trans layout.places }
  · exact fun j => contents_setNext t i j none

/-- A held slot becomes the top of the pool. -/
theorem putFree (layout : t.Layout free queue (i :: held)) :
    (t.putFree i).Layout (i :: free) queue held := by
  obtain ⟨notFree, notQueued⟩ := layout.of_mem_held List.mem_cons_self
  have onTop : ((t.putFree i).slot i).next = t.free := next_setNext_self t i t.free
  exact {
    freeLinked := ⟨rfl, by
      rw [onTop]
      exact layout.freeLinked.setNext notFree rfl⟩
    queueLinked := layout.queueLinked.setNext notQueued rfl
    tailLast := layout.tailLast
    places := List.perm_middle.symm.trans layout.places }

/-- A held slot becomes the last one of the queue. -/
theorem append (layout : t.Layout free queue (i :: held)) :
    (t.append i).Layout free (queue ++ [i]) held := by
  obtain ⟨notFree, notQueued⟩ := layout.of_mem_held List.mem_cons_self
  have places : (free ++ (queue ++ [i]) ++ held).Perm (List.finRange Limits.slots) := by
    rw [← List.append_assoc, List.append_assoc, List.singleton_append]
    exact layout.places
  have cutFree : (t.setNext i none).Linked t.free free := layout.freeLinked.setNext notFree rfl
  have cutQueue : (t.setNext i none).Linked t.head queue :=
    layout.queueLinked.setNext notQueued rfl
  have distinct := layout.queue_nodup
  have back := layout.tailLast
  rcases List.eq_nil_or_concat' queue with rfl | ⟨front, last, rfl⟩
  · -- The queue was empty, so the slot becomes its head as well.
    rw [List.getLast?_nil] at back
    rw [Chains.append, back]
    exact {
      freeLinked := cutFree.congr fun _ _ => rfl
      queueLinked := ⟨rfl, next_setNext_self t i none⟩
      tailLast := rfl
      places := places }
  · rw [List.getLast?_concat] at back
    have lastNotFree : last ∉ free := (layout.of_mem_queue (by simp)).1
    have once : last ∉ front := fun member =>
      List.disjoint_of_nodup_append distinct member List.mem_cons_self
    rw [Chains.append, back]
    exact {
      freeLinked := cutFree.setNext lastNotFree rfl
      queueLinked :=
        (cutQueue.extend once notQueued (next_setNext_self t i none)).congr fun _ _ => rfl
      tailLast := by
        rw [List.getLast?_concat]
      places := places }

/-- If none is queued, none can be pulled. -/
theorem takeHead_nil (layout : t.Layout free [] held) : t.takeHead = none := by
  have empty : t.head = none := layout.queueLinked
  rw [takeHead, empty]

/-- The first slot of the queue changes hands. -/
theorem takeHead_cons (layout : t.Layout free (i :: queue) held) :
    ∃ u, t.takeHead = some (i, u) ∧ u.Layout free queue (i :: held)
      ∧ ∀ j, (u.slot j).contents = (t.slot j).contents := by
  obtain ⟨front, beyond⟩ := layout.queueLinked
  have notFree : i ∉ free := (layout.of_mem_queue List.mem_cons_self).1
  have notQueued : i ∉ queue := (List.nodup_cons.1 layout.queue_nodup).1
  have places : (free ++ queue ++ i :: held).Perm (List.finRange Limits.slots) := by
    refine List.Perm.trans ?_ layout.places
    rw [List.append_assoc, List.append_assoc]
    exact List.perm_middle.append_left free
  have back : (if (t.slot i).next.isNone then none else t.tail) = queue.getLast? := by
    rw [layout.tailLast]
    cases queue with
    | nil =>
        have ends : (t.slot i).next = none := beyond
        rw [ends]
        rfl
    | cons k rest =>
        obtain ⟨goesOn, -⟩ := beyond
        rw [goesOn, List.getLast?_cons_cons]
        rfl
  refine ⟨{ t.setNext i none with
    head := (t.slot i).next
    tail := if (t.slot i).next.isNone then none else t.tail }, ?_, ?_, ?_⟩
  · rw [takeHead, front]
  · exact {
      freeLinked := layout.freeLinked.setNext notFree rfl
      queueLinked := beyond.setNext notQueued rfl
      tailLast := back
      places := places }
  · exact fun j => contents_setNext t i j none

/-- Copying a submission into a slot does not touch the chains. -/
theorem fill (layout : t.Layout free queue held) (i : SlotId) (s : Submission) :
    (t.fill i s).2.Layout free queue held := by
  obtain ⟨top, front, back⟩ := ends_fill t i s
  exact layout.congr (next_fill t i s) top front back

end Layout

/-- A submission that fits is in its slot afterwards. -/
theorem contents_fill_self (t : Chains) (i : SlotId) {s : Submission} (fits : s.Fits) :
    ((t.fill i s).2.slot i).contents = s := by
  obtain ⟨slot, filled, same, -⟩ := (t.slot i).exists_fill?_of_fits fits
  rw [Chains.fill, filled, slot_setSlot_self, same]

theorem contents_fill_of_ne (t : Chains) (s : Submission) (other : j ≠ i) :
    ((t.fill i s).2.slot j).contents = (t.slot j).contents := by
  rw [slot_fill_of_ne t s other]

/-- At first all slots are free. -/
theorem layout_initial : initial.Layout [3, 2, 1, 0] [] [] where
  freeLinked := by
    refine ⟨rfl, rfl, rfl, rfl, rfl⟩
  queueLinked := rfl
  tailLast := rfl
  places := by decide

end AttachService.Chains
