/-
Module: AttachService.Text.Utf8
Purpose: Texts as UTF-8 bytes: exact encoding, strict decoding, and decoding that repairs.
Trusted boundary: none
Main exports: Utf8.encode, Utf8.decode, Utf8.decode_eq_some_iff, Utf8.repair, Utf8.decodeLossy
-/

namespace AttachService.Utf8

/-!
A text travels as the list of its UTF-8 bytes.  Strict decoding accepts exactly the
encodings of texts.  Lossy decoding never fails: every maximal part of the input that
cannot be the beginning of a character is replaced by one U+FFFD.
-/

/-- The UTF-8 bytes of a text. -/
def encode (s : String) : List UInt8 := s.toByteArray.data.toList

/-- The text whose UTF-8 bytes these are, if there is one. -/
def decode (bytes : List UInt8) : Option String := String.fromUTF8? ⟨bytes.toArray⟩

/-- A text has one encoding, so bytes decode to it only if they are that. -/
theorem decode_eq_some_iff {bytes : List UInt8} {s : String} :
    decode bytes = some s ↔ bytes = encode s := by
  unfold decode encode String.fromUTF8? String.fromUTF8
  constructor
  · intro h
    split at h
    · cases h
      rfl
    · cases h
  · intro h
    have same : (⟨bytes.toArray⟩ : ByteArray) = s.toByteArray := by
      rw [h]
    rw [same, dif_pos s.isValidUTF8]

@[simp] theorem decode_encode (s : String) : decode (encode s) = some s :=
  decode_eq_some_iff.2 rfl

theorem encode_injective {s t : String} (h : encode s = encode t) : s = t := by
  have := decode_encode s
  rw [h, decode_encode] at this
  exact (Option.some.inj this).symm

/-- The size of a text is that of its encoding. -/
theorem length_encode (s : String) : (encode s).length = s.utf8ByteSize := by
  simp only [encode, Array.length_toList]
  rfl

/-- Texts are encoded one after the other. -/
@[simp] theorem encode_append (s t : String) : encode (s ++ t) = encode s ++ encode t := by
  simp [encode]

/-! ## Repairing -/

/-- The bytes of U+FFFD, the mark left where a text could not be decoded. -/
def replacement : List UInt8 := [0xEF, 0xBF, 0xBD]

/-- The ranges that the bytes after `lead` have to lie in for the whole to be one
character, or nothing if no character begins with `lead`. -/
def continuation? (lead : UInt8) : Option (List (UInt8 × UInt8)) :=
  if lead < 0x80 then some []
  else if lead < 0xC2 then none
  else if lead < 0xE0 then some [(0x80, 0xBF)]
  else if lead = 0xE0 then some [(0xA0, 0xBF), (0x80, 0xBF)]
  else if lead = 0xED then some [(0x80, 0x9F), (0x80, 0xBF)]
  else if lead < 0xF0 then some [(0x80, 0xBF), (0x80, 0xBF)]
  else if lead = 0xF0 then some [(0x90, 0xBF), (0x80, 0xBF), (0x80, 0xBF)]
  else if lead < 0xF4 then some [(0x80, 0xBF), (0x80, 0xBF), (0x80, 0xBF)]
  else if lead = 0xF4 then some [(0x80, 0x8F), (0x80, 0xBF), (0x80, 0xBF)]
  else none

/-- How many bytes at the front lie in the ranges, one range after the other. -/
def fitting : List (UInt8 × UInt8) → List UInt8 → Nat
  | (low, high) :: ranges, b :: rest =>
      if low ≤ b ∧ b ≤ high then fitting ranges rest + 1 else 0
  | _, _ => 0

/-- Replace every maximal ill-formed part by U+FFFD and keep the rest. -/
def repair : List UInt8 → List UInt8
  | [] => []
  | lead :: rest =>
      match continuation? lead with
      | none => replacement ++ repair rest
      | some ranges =>
          let fit := fitting ranges rest
          if fit = ranges.length then
            lead :: rest.take fit ++ repair (rest.drop fit)
          else
            replacement ++ repair (rest.drop fit)
termination_by bytes => bytes.length
decreasing_by all_goals simp only [List.length_cons, List.length_drop]; omega

/-- The text these bytes stand for once repaired. -/
def decodeLossy (bytes : List UInt8) : String :=
  match decode bytes with
  | some s => s
  | none => (decode (repair bytes)).getD ""

end AttachService.Utf8
