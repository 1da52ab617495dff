/-
Module: AttachService.Pool.Text
Purpose: A text in a buffer of fixed capacity that is overwritten in place.
Trusted boundary: none
Main exports: BoundedText, BoundedText.put?, BoundedText.clear, BoundedText.text
-/
import AttachService.Text.Utf8

namespace AttachService

/-- A buffer of `capacity` bytes whose first `size` bytes are the text.  The bytes behind
them are left over from longer texts and mean nothing. -/
structure BoundedText (capacity : Nat) where
  buffer : List UInt8
  size : Nat
  length_buffer : buffer.length = capacity
  size_le : size ≤ capacity
deriving Repr, DecidableEq

namespace BoundedText

variable {capacity : Nat}

/-- The empty text in a fresh buffer. -/
def empty (capacity : Nat) : BoundedText capacity where
  buffer := List.replicate capacity 0
  size := 0
  length_buffer := List.length_replicate
  size_le := Nat.zero_le _

instance : Inhabited (BoundedText capacity) := ⟨empty capacity⟩

/-- Overwrite the text, unless the new one is longer than the buffer. -/
def put? (t : BoundedText capacity) (s : String) : Option (BoundedText capacity) :=
  let bytes := Utf8.encode s
  if fits : bytes.length ≤ capacity then
    some {
      buffer := bytes ++ t.buffer.drop bytes.length
      size := bytes.length
      length_buffer := by
        rw [List.length_append, List.length_drop, t.length_buffer]
        omega
      size_le := fits }
  else
    none

/-- Overwrite the text, or keep the old one if the new one is too long. -/
def put (t : BoundedText capacity) (s : String) : BoundedText capacity :=
  (t.put? s).getD t

/-- Make the text empty.  The buffer keeps its bytes. -/
def clear (t : BoundedText capacity) : BoundedText capacity :=
  { t with size := 0, size_le := Nat.zero_le _ }

/-- The bytes of the text. -/
def bytes (t : BoundedText capacity) : List UInt8 := t.buffer.take t.size

/-- The text.  Its bytes were put there as a text, so decoding them never falls back. -/
def text (t : BoundedText capacity) : String := (Utf8.decode t.bytes).getD ""

/-- A text that was put is there as it is encoded. -/
theorem bytes_of_put? {t u : BoundedText capacity} {s : String} (h : t.put? s = some u) :
    u.bytes = Utf8.encode s := by
  unfold put? at h
  simp only at h
  split at h
  · cases h
    simp [bytes]
  · cases h

/-- A text that was put is what is shown. -/
theorem text_of_put? {t u : BoundedText capacity} {s : String} (h : t.put? s = some u) :
    u.text = s := by
  rw [text, bytes_of_put? h, Utf8.decode_encode, Option.getD_some]

end BoundedText

end AttachService
