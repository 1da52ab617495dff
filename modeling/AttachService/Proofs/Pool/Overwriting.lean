/-
Module: AttachService.Proofs.Pool.Overwriting
Purpose: However often texts and slots are overwritten and copied, they hold what was put last.
Trusted boundary: none
Main exports: Copies.forall₂_after, BoundedText.latest, BoundedText.Shows, Slot.filled,
  Slot.Shows, Slot.show_what_was_put_last
-/
import Mathlib.Data.List.Forall2
import AttachService.Pool.Copies
import AttachService.Proofs.Pool.Slots

namespace AttachService

/-!
The bytes behind a text are left over from longer ones, and may begin in the middle of a
character.  Nobody sees them as long as the bytes in front are those of one text, which is what
every edit preserves.  Copies are compared with their histories, copy by copy.
-/

namespace Copies

variable {σ τ α β γ : Type} {R : τ → σ → Prop} {mirror : τ → α → γ × τ} {edit : σ → α → β × σ}

/-- A change to one item on either side leaves the two lists in step, if it keeps that pair so. -/
theorem forall₂_modify {ghosts : List τ} {all : List σ} (agree : List.Forall₂ R ghosts all)
    {f : τ → τ} {g : σ → σ} (kept : ∀ ghost one, R ghost one → R (f ghost) (g one)) (k : Nat) :
    List.Forall₂ R (ghosts.modify k f) (all.modify k g) := by
  induction agree generalizing k with
  | nil => simp
  | cons first rest ih =>
      cases k with
      | zero => exact .cons (kept _ _ first) rest
      | succ k => exact .cons first (ih k)

/-- What is looked up in lists that are in step is a pair of theirs. -/
theorem forall₂_toList_getElem? {ghosts : List τ} {all : List σ}
    (agree : List.Forall₂ R ghosts all) (k : Nat) :
    List.Forall₂ R ghosts[k]?.toList all[k]?.toList := by
  induction agree generalizing k with
  | nil => simp
  | cons first rest ih =>
      cases k with
      | zero => exact .cons first .nil
      | succ k => exact ih k

/-- What an edit preserves between two kinds of things, a run preserves between their copies. -/
theorem forall₂_after (kept : ∀ ghost one e, R ghost one → R (mirror ghost e).2 (edit one e).2)
    {ghosts : List τ} {all : List σ} (agree : List.Forall₂ R ghosts all) (steps : List (Step α)) :
    List.Forall₂ R (after mirror ghosts steps) (after edit all steps) := by
  induction steps generalizing ghosts all with
  | nil => exact agree
  | cons s rest ih =>
      apply ih
      cases s with
      | edit k e => exact forall₂_modify agree (fun ghost one same => kept ghost one e same) k
      | clone k => exact List.rel_append agree (forall₂_toList_getElem? agree k)

/-- What holds of something new, and is preserved by an edit, holds of every copy and what was
done to it. -/
theorem forall₂_histories {R : List α → σ → Prop} {one : σ} (start : R [] one)
    (kept : ∀ history one e, R history one → R (e :: history) (edit one e).2)
    (steps : List (Step α)) : List.Forall₂ R (histories steps) (after edit [one] steps) :=
  forall₂_after kept (.cons start .nil) steps

end Copies

/-! ### Texts -/

namespace BoundedText

variable {capacity : Nat} {t : BoundedText capacity} {s : String}

/-- The bytes in front are those of a text. -/
def Holds (t : BoundedText capacity) (s : String) : Prop := t.bytes = Utf8.encode s

/-- The bytes of a text decode to it. -/
theorem Holds.decode (holds : t.Holds s) : Utf8.decode t.bytes = some s :=
  Utf8.decode_eq_some_iff.2 holds

/-- A buffer shows the text whose bytes are in it. -/
theorem Holds.text (holds : t.Holds s) : t.text = s := by
  rw [BoundedText.text, holds.decode, Option.getD_some]

theorem holds_empty (capacity : Nat) : (empty capacity).Holds "" := rfl

theorem holds_clear (t : BoundedText capacity) : t.clear.Holds "" := rfl

/-- A text that fits is there afterwards, whatever was there before. -/
theorem holds_put (t : BoundedText capacity) (fits : s.utf8ByteSize ≤ capacity) :
    (t.put s).Holds s := by
  obtain ⟨u, same⟩ := t.exists_put?_of_fits fits
  rw [put, same, Option.getD_some]
  exact bytes_of_put? same

/-- A text that does not fit is refused. -/
theorem put?_eq_none (t : BoundedText capacity) (long : ¬ s.utf8ByteSize ≤ capacity) :
    t.put? s = none := by
  have long : ¬ (Utf8.encode s).length ≤ capacity := by rwa [Utf8.length_encode]
  simp only [put?, dif_neg long]

/-- What comes of putting a text depends on its length alone. -/
theorem edit_put (t : BoundedText capacity) (s : String) :
    t.edit (.put s) = (some (decide (s.utf8ByteSize ≤ capacity)),
      if s.utf8ByteSize ≤ capacity then t.put s else t) := by
  by_cases fits : s.utf8ByteSize ≤ capacity
  · obtain ⟨u, same⟩ := t.exists_put?_of_fits fits
    simp [edit, put, same, fits]
  · simp [edit, t.put?_eq_none fits, fits]

/-- The text that an edit puts into a buffer, if it fits. -/
def Edit.accepted? (capacity : Nat) : Edit → Option String
  | .put s => if s.utf8ByteSize ≤ capacity then some s else none
  | .clear => none

/-- The text that was put last, of those that fitted, since the buffer was cleared.  The newest
edit comes first. -/
def latest (capacity : Nat) (history : List Edit) : String :=
  ((history.takeWhile (· ≠ .clear)).findSome? (Edit.accepted? capacity)).getD ""

/-- A text counts only if it fits. -/
theorem latest_put (capacity : Nat) (s : String) (earlier : List Edit) :
    latest capacity (.put s :: earlier)
      = if s.utf8ByteSize ≤ capacity then s else latest capacity earlier := by
  by_cases fits : s.utf8ByteSize ≤ capacity
  · simp [latest, Edit.accepted?, fits]
  · simp [latest, Edit.accepted?, fits]

/-- Nothing that went before the buffer was cleared counts. -/
theorem latest_clear (capacity : Nat) (earlier : List Edit) :
    latest capacity (.clear :: earlier) = "" := by
  simp [latest]

/-- The buffer holds the text that was put last. -/
def Faithful (history : List Edit) (t : BoundedText capacity) : Prop :=
  t.Holds (latest capacity history)

theorem faithful_empty (capacity : Nat) : Faithful [] (empty capacity) := holds_empty capacity

/-- Whatever is done to a buffer, it holds what counts. -/
theorem faithful_edit {history : List Edit} (faithful : Faithful history t) (e : Edit) :
    Faithful (e :: history) (t.edit e).2 := by
  unfold Faithful at faithful ⊢
  cases e with
  | put s =>
      rw [latest_put, edit_put]
      by_cases fits : s.utf8ByteSize ≤ capacity
      · rw [if_pos fits, if_pos fits]
        exact t.holds_put fits
      · rw [if_neg fits, if_neg fits]
        exact faithful
  | clear =>
      rw [latest_clear]
      exact t.holds_clear

/-- What a text with such a history shows. -/
structure Shows (history : List Edit) (t : BoundedText capacity) : Prop where
  text : t.text = latest capacity history
  /-- The bytes are those of the text, so reading it never falls back. -/
  decodes : Utf8.decode t.bytes = some t.text
  takes : ∀ s, (t.edit (.put s)).1 = some (decide (s.utf8ByteSize ≤ capacity))
  /-- A text that does not fit changes nothing, not even what nobody sees. -/
  refuses : ∀ s, (t.edit (.put s)).1 = some false → (t.edit (.put s)).2 = t

/-- All that a text shows follows from what its buffer holds. -/
theorem Faithful.shows {history : List Edit} (faithful : Faithful history t) :
    Shows history t where
  text := Holds.text faithful
  decodes := by rw [Holds.decode faithful, Holds.text faithful]
  takes s := by rw [edit_put]
  refuses s refused := by
    rw [edit_put] at refused ⊢
    simp only [Option.some.injEq, decide_eq_false_iff_not] at refused
    exact if_neg refused

end BoundedText

/-! ### Slots -/

namespace Slot

variable {slot : Slot} {s : Submission}

/-- Every buffer holds the field of a submission that is meant for it. -/
structure Holds (slot : Slot) (s : Submission) : Prop where
  version : slot.version = s.version
  name : slot.nameText.Holds s.name
  args : ∀ i (bound : i < Limits.arguments), slot.argTexts[i].Holds s.args[i]
  channel : slot.channelText.Holds s.channel

theorem Holds.args_eq (holds : slot.Holds s) : slot.args = s.args := by
  apply Vector.ext
  intro i bound
  rw [Slot.args, Vector.getElem_map]
  exact (holds.args i bound).text

/-- A slot shows the submission that is in its buffers. -/
theorem Holds.contents (holds : slot.Holds s) : slot.contents = s := by
  simp only [Slot.contents, holds.version, Slot.name, holds.name.text, holds.args_eq, Slot.channel,
    holds.channel.text]

theorem Holds.arg (holds : slot.Holds s) (i : Nat) : slot.arg i = s.args[i]?.getD "" := by
  by_cases bound : i < Limits.arguments
  · simp only [Slot.arg, Vector.getElem?_eq_getElem bound, (holds.args i bound).text,
      Option.getD_some]
  · simp only [Slot.arg, Vector.getElem?_eq_none (Nat.not_lt.1 bound), Option.getD_none]

/-- What a slot that never held a request shows. -/
def blank : Submission where
  version := 1
  name := ""
  args := Vector.replicate _ ""
  channel := ""

/-- A slot that never held a request holds a blank one. -/
theorem holds_new : new.Holds blank where
  version := rfl
  name := BoundedText.holds_empty _
  args i bound := by
    simp only [new, blank, Vector.getElem_replicate]
    exact BoundedText.holds_empty _
  channel := BoundedText.holds_empty _

/-- Every buffer is overwritten from its beginning, so nothing is seen of what was there. -/
theorem edit_fill_of_fits (slot : Slot) (fits : s.Fits) :
    ∃ filled, slot.edit (.fill s) = (some true, filled) ∧ filled.Holds s
      ∧ filled.next = slot.next := by
  obtain ⟨nameFits, argsFit, channelFits⟩ := fits
  simp only [edit, fill?, if_pos (show s.Fits from ⟨nameFits, argsFit, channelFits⟩)]
  refine ⟨_, rfl, ?_, rfl⟩
  constructor
  · rfl
  · exact slot.nameText.holds_put nameFits
  · intro i bound
    rw [Vector.getElem_zipWith]
    exact BoundedText.holds_put _ (argsFit _ (by simp))
  · exact slot.channelText.holds_put channelFits

/-- A submission that does not fit leaves every buffer alone. -/
theorem edit_fill_of_not_fits (slot : Slot) (long : ¬ s.Fits) :
    slot.edit (.fill s) = (some false, slot) := by
  simp only [edit, fill?, if_neg long]

/-- A submission does not fit if any of its texts is too long. -/
theorem not_fits_iff (s : Submission) :
    ¬ s.Fits ↔ 16 < s.name.utf8ByteSize ∨ (∃ arg ∈ s.args.toList, 1024 < arg.utf8ByteSize)
      ∨ 256 < s.channel.utf8ByteSize := by
  simp only [Submission.Fits, Decidable.not_and_iff_or_not, not_forall, Nat.not_le, exists_prop,
    Limits.nameBytes, Limits.argumentBytes, Limits.channelBytes]

/-- The submission that an edit fills a slot with, if it fits. -/
def Edit.accepted? : Edit → Option Submission
  | .fill s => if s.Fits then some s else none
  | .link _ => none

/-- The slot that comes after, if an edit says so. -/
def Edit.linked? : Edit → Option (Option SlotId)
  | .fill _ => none
  | .link next => some next

/-- The submission that fitted last.  The newest edit comes first. -/
def filled (history : List Edit) : Submission := (history.findSome? Edit.accepted?).getD blank

/-- The slot that was last said to come after. -/
def linked (history : List Edit) : Option SlotId := (history.findSome? Edit.linked?).getD none

/-- A submission counts only if it fits. -/
theorem filled_fill (s : Submission) (earlier : List Edit) :
    filled (.fill s :: earlier) = if s.Fits then s else filled earlier := by
  by_cases fits : s.Fits
  · simp [filled, Edit.accepted?, fits]
  · simp [filled, Edit.accepted?, fits]

/-- What a slot with such a history shows. -/
structure Shows (history : List Edit) (slot : Slot) : Prop where
  /-- Version, name, arguments and channel, each exactly as it was given. -/
  contents : slot.contents = filled history
  arg : ∀ i, slot.arg i = (filled history).args[i]?.getD ""
  next : slot.next = linked history
  /-- In every buffer the bytes are those of the text. -/
  decodes : Utf8.decode slot.nameText.bytes = some slot.name
    ∧ (∀ text ∈ slot.argTexts.toList, Utf8.decode text.bytes = some text.text)
    ∧ Utf8.decode slot.channelText.bytes = some slot.channel
  refuses : ∀ s, (slot.edit (.fill s)).1 = some false ↔ 16 < s.name.utf8ByteSize
    ∨ (∃ arg ∈ s.args.toList, 1024 < arg.utf8ByteSize) ∨ 256 < s.channel.utf8ByteSize
  /-- A submission that is refused changes nothing, not even what nobody sees. -/
  keeps : ∀ s, (slot.edit (.fill s)).1 = some false → (slot.edit (.fill s)).2 = slot
  fills : ∀ s, (slot.edit (.fill s)).1 ≠ some false →
    (slot.edit (.fill s)).1 = some true ∧ (slot.edit (.fill s)).2.contents = s
      ∧ (slot.edit (.fill s)).2.next = slot.next

/-- The buffers hold the submission that fitted last, and the link is the last one. -/
def Faithful (history : List Edit) (slot : Slot) : Prop :=
  slot.Holds (filled history) ∧ slot.next = linked history

theorem faithful_new : Faithful [] new := ⟨holds_new, rfl⟩

/-- Whatever is done to a slot, it holds what counts. -/
theorem faithful_edit {history : List Edit} (faithful : Faithful history slot) (e : Edit) :
    Faithful (e :: history) (slot.edit e).2 := by
  obtain ⟨holds, next⟩ := faithful
  cases e with
  | fill s =>
      have unlinked : linked (.fill s :: history) = linked history := rfl
      rw [Faithful, filled_fill, unlinked]
      by_cases fits : s.Fits
      · obtain ⟨after, edited, holdsNew, nextKept⟩ := slot.edit_fill_of_fits fits
        rw [if_pos fits, edited]
        exact ⟨holdsNew, nextKept.trans next⟩
      · rw [if_neg fits, slot.edit_fill_of_not_fits fits]
        exact ⟨holds, next⟩
  | link later => exact ⟨⟨holds.version, holds.name, holds.args, holds.channel⟩, rfl⟩

/-- A submission is refused exactly if it does not fit. -/
theorem edit_fill_eq_false_iff (slot : Slot) (s : Submission) :
    (slot.edit (.fill s)).1 = some false ↔ ¬ s.Fits := by
  by_cases fits : s.Fits
  · obtain ⟨after, edited, -⟩ := slot.edit_fill_of_fits fits
    simp [edited, fits]
  · simp [slot.edit_fill_of_not_fits fits, fits]

/-- All that a slot shows follows from what its buffers hold. -/
theorem Faithful.shows {history : List Edit} (faithful : Faithful history slot) :
    Shows history slot := by
  obtain ⟨holds, next⟩ := faithful
  exact {
    contents := holds.contents
    arg := holds.arg
    next := next
    decodes := by
      refine ⟨?_, ?_, ?_⟩
      · rw [holds.name.decode, Slot.name, holds.name.text]
      · intro text member
        obtain ⟨i, bound, rfl⟩ := List.getElem_of_mem member
        have bound : i < Limits.arguments := by simpa using bound
        rw [Vector.getElem_toList, (holds.args i bound).decode, (holds.args i bound).text]
      · rw [holds.channel.decode, Slot.channel, holds.channel.text]
    refuses := fun s => (slot.edit_fill_eq_false_iff s).trans (not_fits_iff s)
    keeps := by
      intro s refused
      rw [slot.edit_fill_of_not_fits ((slot.edit_fill_eq_false_iff s).1 refused)]
    fills := by
      intro s taken
      rw [Ne, edit_fill_eq_false_iff, not_not] at taken
      obtain ⟨after, edited, holdsNew, nextKept⟩ := slot.edit_fill_of_fits taken
      rw [edited]
      exact ⟨rfl, holdsNew.contents, nextKept⟩ }

/-- Texts and slots show what was put into them last of what fitted, whatever else was done to
them, to what they are copies of, and to other copies of it. -/
theorem show_what_was_put_last :
    (∀ (capacity : Nat) (steps : List (Copies.Step BoundedText.Edit)),
      List.Forall₂ BoundedText.Shows (Copies.histories steps)
        (Copies.after BoundedText.edit [BoundedText.empty capacity] steps))
      ∧ ∀ steps : List (Copies.Step Edit),
        List.Forall₂ Shows (Copies.histories steps) (Copies.after edit [new] steps) := by
  constructor
  · intro capacity steps
    have faithful := Copies.forall₂_histories (BoundedText.faithful_empty capacity)
      (fun _ _ e kept => BoundedText.faithful_edit kept e) steps
    exact faithful.imp fun _ _ kept => kept.shows
  · intro steps
    have faithful := Copies.forall₂_histories faithful_new
      (fun _ _ e kept => faithful_edit kept e) steps
    exact faithful.imp fun _ _ kept => kept.shows

/-- A short text after a long one, and the rest of a character behind it. -/
example :
    (((BoundedText.empty 8).put "éé").put "a").text = "a"
      ∧ (((BoundedText.empty 8).put "éé").put "a").buffer
        = [0x61, 0xA9, 0xC3, 0xA9, 0, 0, 0, 0] := by
  decide +kernel

end Slot

end AttachService
