/-
Module: AttachService.Proofs.Pool.Slots
Purpose: What a slot holds is exactly what was last copied into it.
Trusted boundary: none
Main exports: BoundedText.text_put, Slot.next_of_fill?, Slot.exists_fill?_of_fits
-/
import AttachService.Pool.Basic

namespace AttachService

namespace BoundedText

variable {capacity : Nat}

/-- A text is not refused if there is room for it. -/
theorem exists_put?_of_fits (t : BoundedText capacity) {s : String}
    (fits : s.utf8ByteSize ≤ capacity) : ∃ u, t.put? s = some u := by
  have short : (Utf8.encode s).length ≤ capacity := by
    rw [Utf8.length_encode]
    exact fits
  simp only [put?, dif_pos short]
  exact ⟨_, rfl⟩

/-- A text that fits leaves no trace of what the buffer held before. -/
theorem text_put (t : BoundedText capacity) {s : String}
    (fits : s.utf8ByteSize ≤ capacity) : (t.put s).text = s := by
  obtain ⟨u, same⟩ := t.exists_put?_of_fits fits
  rw [put, same, Option.getD_some]
  exact text_of_put? same

end BoundedText

namespace Slot

/-- The arguments of a submission that fits come back from the buffers they were put into. -/
theorem map_text_zipWith_put {n : Nat} (texts : Vector (BoundedText Limits.argumentBytes) n)
    (args : Vector String n)
    (fit : ∀ arg ∈ args.toList, arg.utf8ByteSize ≤ Limits.argumentBytes) :
    (Vector.zipWith (·.put ·) texts args).map (·.text) = args := by
  apply Vector.ext
  intro i bound
  have member : args[i] ∈ args.toList := by
    simp
  rw [Vector.getElem_map, Vector.getElem_zipWith]
  exact BoundedText.text_put _ (fit _ member)

/-- Filling a slot does not change what comes after it. -/
theorem next_of_fill? {slot filled : Slot} {s : Submission} (fills : slot.fill? s = some filled) :
    filled.next = slot.next := by
  unfold fill? at fills
  split at fills
  · cases fills
    rfl
  · cases fills

/-- A submission that fits is copied in whole, and the link stays. -/
theorem exists_fill?_of_fits (slot : Slot) {s : Submission} (fits : s.Fits) :
    ∃ filled, slot.fill? s = some filled ∧ filled.contents = s ∧ filled.next = slot.next := by
  obtain ⟨nameFits, argsFit, channelFits⟩ := fits
  refine ⟨_, if_pos ⟨nameFits, argsFit, channelFits⟩, ?_, rfl⟩
  simp only [contents, name, args, channel, BoundedText.text_put _ nameFits,
    map_text_zipWith_put _ _ argsFit, BoundedText.text_put _ channelFits]

end Slot

end AttachService
