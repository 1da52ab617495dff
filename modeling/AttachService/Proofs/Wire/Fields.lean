/-
Module: AttachService.Proofs.Wire.Fields
Purpose: Fields without NULs are read back as they were written, one by one or as a body.
Trusted boundary: none
Main exports: Request.readField_of_arriving, Request.readFields_of_arriving,
  Request.splitBody_flatMap
-/
import AttachService.Proofs.Stream.Arrivals
import AttachService.Proofs.Text.Encoding
import AttachService.Wire.Request

namespace AttachService.Request

open Utf8

variable {s : Source} {bytes rest : List UInt8} {text : String} {texts : List String}
  {bound room : Nat}

/-! ### Fields that arrive -/

/-- A field ends at its first NUL, which is taken with it. -/
theorem takeField_of_arriving (clean : 0 ∉ bytes) (fits : bytes.length ≤ room)
    (arrives : s.arriving = bytes ++ 0 :: rest) :
    ∃ t, takeField bound room s = (.ok bytes, t) ∧ s.Passes (bytes ++ [0]) t := by
  induction bytes generalizing room s with
  | nil =>
      obtain ⟨t, first, passes⟩ := Source.next_of_arriving arrives
      refine ⟨t, ?_, passes⟩
      unfold takeField
      simp only [first, if_true]
  | cons b bytes ih =>
      obtain ⟨t, first, one⟩ := Source.next_of_arriving arrives
      have other : b ≠ 0 := fun same => clean (same ▸ List.mem_cons_self)
      cases room with
      | zero => cases fits
      | succ room =>
          obtain ⟨u, more, others⟩ := ih (fun member => clean (List.mem_cons_of_mem b member))
            (Nat.le_of_succ_le_succ fits) (one.rest_eq arrives)
          refine ⟨u, ?_, one.trans others⟩
          unfold takeField
          simp only [first, if_neg other, more]

/-- A field that fits its bound is read, with the NUL after it. -/
theorem readField_of_arriving (clean : 0 ∉ encode text) (fits : text.utf8ByteSize ≤ bound)
    (arrives : s.arriving = field text ++ rest) :
    ∃ t, readField bound s = (.ok text, t) ∧ s.Passes (field text) t := by
  rw [field, List.append_assoc, List.singleton_append] at arrives
  rw [← length_encode] at fits
  obtain ⟨t, taken, passes⟩ : ∃ t, takeField bound bound s = (.ok (encode text), t)
      ∧ s.Passes (field text) t := takeField_of_arriving clean fits arrives
  refine ⟨t, ?_, passes⟩
  simp only [readField, taken, decode_encode]

/-- Fields are read one after the other, and nothing beyond the last one. -/
theorem readFields_of_arriving (clean : ∀ text ∈ texts, 0 ∉ encode text)
    (fit : ∀ text ∈ texts, text.utf8ByteSize ≤ bound)
    (arrives : s.arriving = texts.flatMap field ++ rest) :
    ∃ t, readFields bound texts.length s = (.ok texts, t) ∧ s.Passes (texts.flatMap field) t := by
  induction texts generalizing s with
  | nil => exact ⟨s, rfl, .refl s⟩
  | cons text texts ih =>
      rw [List.flatMap_cons, List.append_assoc] at arrives
      obtain ⟨t, first, one⟩ := readField_of_arriving (clean text List.mem_cons_self)
        (fit text List.mem_cons_self) arrives
      obtain ⟨u, more, others⟩ := ih
        (fun other member => clean other (List.mem_cons_of_mem _ member))
        (fun other member => fit other (List.mem_cons_of_mem _ member)) (one.rest_eq arrives)
      refine ⟨u, ?_, one.trans others⟩
      rw [List.length_cons, readFields]
      simp only [first, more]

/-! ### Fields in a body -/

/-- A body is cut at its NULs. -/
theorem splitAtNul_eq_splitOn (bytes : List UInt8) : splitAtNul bytes = bytes.splitOn 0 := by
  induction bytes with
  | nil => rfl
  | cons b bytes ih =>
      have step : splitAtNul (b :: bytes) = splitStep b (splitAtNul bytes) := rfl
      obtain ⟨first, others, cut⟩ := List.exists_cons_of_ne_nil (List.splitOn_ne_nil 0 bytes)
      rw [step, ih, cut, splitStep, List.splitOn_cons_eq_if_modifyHead, cut]
      by_cases nul : b = 0
      · rw [if_pos nul, if_pos (beq_iff_eq.2 nul)]
      · rw [if_neg nul, if_neg (by simpa using nul)]
        rfl

/-- Ending every part with a NUL comes to joining them by NULs and ending the whole with one. -/
theorem flatMap_ended_eq {parts : List (List UInt8)} (nonempty : parts ≠ []) :
    parts.flatMap (· ++ [0]) = [0].intercalate parts ++ [0] := by
  induction parts with
  | nil => exact absurd rfl nonempty
  | cons part parts ih =>
      rw [List.flatMap_cons]
      by_cases last : parts = []
      · subst last
        simp
      · rw [List.intercalate_cons_of_ne_nil last, ih last]
        simp only [List.append_assoc]

/-- The last field of a body ends like all the others. -/
theorem flatMap_field_eq (nonempty : texts ≠ []) :
    texts.flatMap field = [0].intercalate (texts.map encode) ++ [0] := by
  rw [← flatMap_ended_eq (by simpa using nonempty), List.flatMap_map]
  rfl

theorem decodeAll_map_encode (texts : List String) : decodeAll (texts.map encode) = .ok texts := by
  have all : (texts.map encode).mapM decode = some texts := by
    induction texts with
    | nil => rfl
    | cons text texts ih =>
        rw [List.map_cons, List.mapM_cons, decode_encode, ih]
        rfl
  rw [decodeAll, all]

/-- A body is split into the fields it was made of. -/
theorem splitBody_flatMap (clean : ∀ field ∈ text :: texts, 0 ∉ encode field)
    (fits : text.utf8ByteSize ≤ Limits.nameBytes) :
    splitBody ((text :: texts).flatMap field) = .ok (text, texts) := by
  have parts : splitAtNul ([0].intercalate ((text :: texts).map encode))
      = (text :: texts).map encode := by
    rw [splitAtNul_eq_splitOn]
    apply List.splitOn_intercalate
    · intro bytes member
      obtain ⟨field, among, rfl⟩ := List.mem_map.1 member
      exact clean field among
    · exact List.cons_ne_nil _ _
  rw [← length_encode] at fits
  rw [flatMap_field_eq (List.cons_ne_nil text texts), splitBody, List.getLast?_concat,
    List.dropLast_concat, parts, List.map_cons]
  simp only [ne_eq, not_true_eq_false, if_false, decode_encode, if_neg (Nat.not_lt.2 fits),
    decodeAll_map_encode]

end AttachService.Request
