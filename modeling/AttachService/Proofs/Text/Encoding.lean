/-
Module: AttachService.Proofs.Text.Encoding
Purpose: The bytes of a text, one character after the other, and where NUL bytes come from.
Trusted boundary: none
Main exports: Utf8.encode_eq_flatMap, Utf8.decode_append, Utf8.mem_encode_iff, Utf8.pieces,
  Utf8.flatMap_pieces
-/
import AttachService.Text.Utf8

namespace AttachService.Utf8

/-- A text is encoded character by character. -/
theorem encode_eq_flatMap (s : String) : encode s = s.toList.flatMap String.utf8EncodeChar := by
  rw [encode, ← String.utf8Encode_toList, List.utf8Encode, List.data_toByteArray]

theorem encode_ofList (cs : List Char) :
    encode (String.ofList cs) = cs.flatMap String.utf8EncodeChar := by
  rw [encode_eq_flatMap, String.toList_ofList]

/-- An encoding that begins as that of another text is that of a longer text. -/
theorem exists_of_encode_append {s whole : String} {bytes : List UInt8}
    (same : encode s ++ bytes = encode whole) :
    ∃ more, whole = s ++ more ∧ bytes = encode more := by
  have arrays : s.toList.utf8Encode ++ ⟨bytes.toArray⟩ = whole.toList.utf8Encode := by
    rw [String.utf8Encode_toList, String.utf8Encode_toList]
    apply ByteArray.ext
    apply Array.toList_inj.1
    simpa [encode] using same
  obtain ⟨more, ahead⟩ := List.isPrefix_of_utf8Encode_append_eq_utf8Encode _ arrays
  have longer : whole = s ++ String.ofList more := by
    apply String.toList_inj.1
    rw [String.toList_append, String.toList_ofList, ahead]
  refine ⟨String.ofList more, longer, ?_⟩
  rw [longer, encode_append] at same
  exact List.append_cancel_left same

/-- Bytes behind a text are decoded on their own. -/
theorem decode_append (s : String) (bytes : List UInt8) :
    decode (encode s ++ bytes) = (decode bytes).map (s ++ ·) := by
  cases decoded : decode bytes with
  | some text =>
      rw [decode_eq_some_iff.1 decoded, ← encode_append, decode_encode]
      rfl
  | none =>
      cases found : decode (encode s ++ bytes) with
      | none => rfl
      | some whole =>
          obtain ⟨more, -, rfl⟩ := exists_of_encode_append (decode_eq_some_iff.1 found)
          rw [decode_encode] at decoded
          cases decoded

/-- Characters of one byte each are cut between characters only. -/
theorem exists_of_prefix_of_ascii {cs : List Char} {front : List UInt8}
    (ascii : ∀ c ∈ cs, c.utf8Size = 1) (ahead : front <+: cs.flatMap String.utf8EncodeChar) :
    ∃ kept, kept <+: cs ∧ front = kept.flatMap String.utf8EncodeChar := by
  induction cs generalizing front with
  | nil => exact ⟨[], List.prefix_refl [], List.prefix_nil.1 ahead⟩
  | cons c rest ih =>
      rw [List.flatMap_cons, String.utf8EncodeChar_eq_singleton (ascii c List.mem_cons_self),
        List.singleton_append] at ahead
      rcases List.prefix_cons_iff.1 ahead with rfl | ⟨front, rfl, later⟩
      · exact ⟨[], List.nil_prefix, rfl⟩
      · obtain ⟨kept, among, rfl⟩ :=
          ih (fun d member => ascii d (List.mem_cons_of_mem c member)) later
        refine ⟨c :: kept, (List.prefix_cons_inj c).2 among, ?_⟩
        rw [List.flatMap_cons, String.utf8EncodeChar_eq_singleton (ascii c List.mem_cons_self)]
        rfl

/-- Bytes of the lower half are not those of the upper one. -/
theorem ne_ofNat_of_high {b : UInt8} {n : Nat} (low : b.toNat < 128) (high : 128 ≤ n)
    (small : n < 256) : b ≠ UInt8.ofNat n := by
  rintro rfl
  rw [UInt8.toNat_ofNat_of_lt' small] at low
  omega

/-- In every encoding of more than one byte, each byte has a high bit. -/
theorem eq_of_low_mem {b : UInt8} {c : Char} (low : b.toNat < 128)
    (member : b ∈ String.utf8EncodeChar c) : b.toNat = c.toNat := by
  unfold String.utf8EncodeChar at member
  simp only at member
  split at member
  · next ascii =>
      rw [List.mem_singleton.1 member]
      exact UInt8.toNat_ofNat_of_lt' (Nat.lt_of_le_of_lt ascii (by decide))
  · exfalso
    revert member
    split
    · simp only [List.mem_cons, List.not_mem_nil, or_false, imp_false, not_or]
      exact ⟨ne_ofNat_of_high low (by omega) (by omega),
        ne_ofNat_of_high low (by omega) (by omega)⟩
    · split
      · simp only [List.mem_cons, List.not_mem_nil, or_false, imp_false, not_or]
        exact ⟨ne_ofNat_of_high low (by omega) (by omega),
          ne_ofNat_of_high low (by omega) (by omega), ne_ofNat_of_high low (by omega) (by omega)⟩
      · simp only [List.mem_cons, List.not_mem_nil, or_false, imp_false, not_or]
        exact ⟨ne_ofNat_of_high low (by omega) (by omega),
          ne_ofNat_of_high low (by omega) (by omega), ne_ofNat_of_high low (by omega) (by omega),
          ne_ofNat_of_high low (by omega) (by omega)⟩

/-- The byte of an ASCII character is found where the character is, and nowhere else. -/
theorem mem_encode_iff {a : Char} {s : String} (ascii : a.toNat < 128) :
    UInt8.ofNat a.toNat ∈ encode s ↔ a ∈ s.toList := by
  have value : (UInt8.ofNat a.toNat).toNat = a.toNat :=
    UInt8.toNat_ofNat_of_lt' (Nat.lt_of_lt_of_le ascii (by decide))
  rw [encode_eq_flatMap, List.mem_flatMap]
  constructor
  · rintro ⟨c, member, here⟩
    have same := eq_of_low_mem (by rw [value]; exact ascii) here
    rw [value, Char.toNat_inj] at same
    exact same ▸ member
  · intro member
    refine ⟨a, member, ?_⟩
    rw [String.utf8EncodeChar_eq_singleton
      (Char.utf8Size_eq_one_iff.2 (UInt32.le_iff_toNat_le.2 (Nat.le_of_lt_succ ascii)))]
    exact List.mem_singleton.2 rfl

/-- A NUL byte comes of a NUL and of nothing else. -/
theorem zero_mem_encode_iff {s : String} : 0 ∈ encode s ↔ '\x00' ∈ s.toList :=
  mem_encode_iff (a := '\x00') (by decide)

/-! ### Lists cut at a separator -/

section Cut

variable {α β : Type} [BEq α] [LawfulBEq α] {sep : α}

/-- There is no separator between two separators. -/
theorem not_mem_of_mem_splitOn {l piece : List α} (member : piece ∈ l.splitOn sep) :
    sep ∉ piece := by
  induction l generalizing piece with
  | nil =>
      rw [List.splitOn_nil, List.mem_singleton] at member
      rw [member]
      exact List.not_mem_nil
  | cons a rest ih =>
      rw [List.splitOn_cons_eq_if_modifyHead] at member
      by_cases same : a = sep
      · rw [if_pos (beq_iff_eq.2 same)] at member
        rcases List.mem_cons.1 member with rfl | later
        · exact List.not_mem_nil
        · exact ih later
      · obtain ⟨first, others, cut⟩ := List.exists_cons_of_ne_nil (List.splitOn_ne_nil sep rest)
        rw [if_neg (by simpa using same), cut, List.modifyHead_cons] at member
        rw [cut] at ih
        rcases List.mem_cons.1 member with rfl | later
        · intro here
          rcases List.mem_cons.1 here with rfl | inside
          · exact same rfl
          · exact ih List.mem_cons_self inside
        · exact ih (List.mem_cons_of_mem first later)

/-- If the separator is written as `mark`, ending every part with a mark comes to writing the
whole and a mark. -/
theorem flatMap_splitOn {write : α → List β} {mark : β} (separator : write sep = [mark])
    (l : List α) :
    (l.splitOn sep).flatMap (fun piece => piece.flatMap write ++ [mark])
      = l.flatMap write ++ [mark] := by
  induction l with
  | nil => simp
  | cons a rest ih =>
      rw [List.splitOn_cons_eq_if_modifyHead, List.flatMap_cons]
      by_cases same : a = sep
      · rw [if_pos (beq_iff_eq.2 same), List.flatMap_cons, ih, same, separator]
        rfl
      · obtain ⟨first, others, cut⟩ := List.exists_cons_of_ne_nil (List.splitOn_ne_nil sep rest)
        rw [cut, List.flatMap_cons] at ih
        rw [if_neg (by simpa using same), cut, List.modifyHead_cons, List.flatMap_cons,
          List.flatMap_cons, List.append_assoc, List.append_assoc, List.append_assoc, ← ih,
          List.append_assoc]

end Cut

/-! ### Texts cut at the NULs -/

/-- The parts between the NULs of a text.  There is one more than there are NULs. -/
def pieces (s : String) : List String := (s.toList.splitOn '\x00').map String.ofList

/-- There is always a first piece, if only an empty one. -/
theorem pieces_ne_nil (s : String) : pieces s ≠ [] := by
  rw [pieces, Ne, List.map_eq_nil_iff]
  exact List.splitOn_ne_nil '\x00' s.toList

/-- A text without NULs is in one piece. -/
theorem pieces_of_not_mem {s : String} (clean : '\x00' ∉ s.toList) : pieces s = [s] := by
  rw [pieces, List.splitOn_eq_singleton clean, List.map_singleton, String.ofList_toList]

/-- No piece is taken for more than one field. -/
theorem zero_not_mem_of_mem_pieces {s piece : String} (member : piece ∈ pieces s) :
    0 ∉ encode piece := by
  obtain ⟨cs, cut, rfl⟩ := List.mem_map.1 member
  rw [zero_mem_encode_iff, String.toList_ofList]
  exact not_mem_of_mem_splitOn cut

/-- Ending every piece with a NUL byte comes to ending the whole with one. -/
theorem flatMap_pieces (s : String) :
    (pieces s).flatMap (fun piece => encode piece ++ [0]) = encode s ++ [0] := by
  rw [pieces, List.flatMap_map, encode_eq_flatMap]
  simp only [encode_ofList]
  exact flatMap_splitOn (by decide) s.toList

end AttachService.Utf8
