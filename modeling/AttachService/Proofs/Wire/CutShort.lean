/-
Module: AttachService.Proofs.Wire.CutShort
Purpose: A request or a reply of which only a front arrives is never taken for another one.
Trusted boundary: none
Main exports: Request.Sends, Request.starves_of_sends, Reply.Sends, Reply.CutShort,
  Reply.cutShort_parse, Reader.notices_what_is_missing
-/
import AttachService.Proofs.Wire.Prompt
import AttachService.Proofs.Wire.Replies
import AttachService.Proofs.Wire.RoundTrip

namespace AttachService

/-!
A request says where it ends, so a reader that took it to its last byte had too little before
that.  A reply ends where its stream ends: if the stream stops inside the result line there is no
such line, and if it stops later the result is there already, and only output is missing.
-/

variable {s : Source} {bytes front : List UInt8}

/-! ### Requests -/

namespace Request

variable {r : Request}

/-- These are the bytes that were written of the request. -/
def Sends (r : Request) (bytes : List UInt8) : Prop :=
  ∃ sink after, r.write sink = (.ok (), after) ∧ after.written = sink.written ++ bytes

/-- A request without NULs is read to its last byte. -/
theorem passes_of_layout (laid : r.layout = .ok bytes)
    (clean : ∀ text ∈ r.name :: r.args, '\x00' ∉ text.toList) (arrives : s.arriving = bytes) :
    s.Passes bytes (read s).2 := by
  have whole : s.arriving = bytes ++ [] := by
    rw [arrives, List.append_nil]
  obtain ⟨version, name, args⟩ := r
  cases version with
  | v1 =>
      obtain ⟨got, t, said, received⟩ := read_of_layout_inline laid whole
      obtain ⟨-, -, passes⟩ := received.inline rfl
      have all := passes.arriving
      rw [(received.clean clean).2, List.append_nil, arrives] at all
      rw [said, all]
      exact passes
  | v2 =>
      obtain ⟨got, t, said, received⟩ := read_of_layout_sized laid whole
      rw [said]
      exact (received.sized rfl).2

/-- A reader wants all bytes of a request. -/
theorem starves_of_sends (sends : r.Sends bytes)
    (clean : ∀ text ∈ r.name :: r.args, '\x00' ∉ text.toList) (ahead : front <+: bytes)
    (proper : front ≠ bytes) : Reader.Starves read front := by
  obtain ⟨sink, after, written, new⟩ := sends
  have laid := layout_of_write written new
  have arrives := Source.arriving_ofBytes bytes
  exact prompt_read.starves_of_passes arrives (passes_of_layout laid clean arrives) ahead proper

end Request

/-- At the end of the file, what is unfinished is truncated. -/
theorem Reader.Starves.truncated {α : Type} {read : Reader α} (few : read.Starves front)
    (arrives : s.arriving = front) (ends : s.ending = .ended) :
    ∃ t, read s = (.error (.flaw .truncated), t) ∧ t.taken = s.taken + front.length := by
  obtain ⟨cause, t, unfinished, said, taken⟩ := few s arrives
  rw [ends] at unfinished
  cases unfinished
  exact ⟨t, said, taken⟩

/-! ### Replies -/

namespace Reply

open Utf8

variable {r : Reply}

/-- These are the bytes that were written of the reply. -/
def Sends (r : Reply) (bytes : List UInt8) : Prop :=
  ∃ sink after, r.write sink = (.ok (), after) ∧ after.written = sink.written ++ bytes

/-- What a front of a reply is taken for.  Its first newline, if it has one, ends the result
line. -/
inductive CutShort (r : Reply) (front : List UInt8) : Except NoReply Reply → Prop where
  | inLine (before : 10 ∉ front) :
      CutShort r front (.error (.flaw (.invalidReply .noResultLine)))
  | inOutput {output : String} (whole : front = encode (resultLine r.result) ++ encode output)
      (ahead : encode output <+: encode r.output) : CutShort r front (.ok ⟨r.result, output⟩)
  /-- The output was cut inside of a character. -/
  | inCharacter {rest : List UInt8} (whole : front = encode (resultLine r.result) ++ rest)
      (ahead : rest <+: encode r.output) (bad : ∀ text, encode text ≠ rest) :
      CutShort r front (.error (.flaw .invalidUtf8))

/-- A result line is the code and a newline. -/
theorem encode_resultLine (code : Int32) :
    encode (resultLine code) = encode (Numeral.ofInt code.toInt) ++ [10] := by
  rw [resultLine, encode_append]
  rfl

/-- The characters of a result take one byte each. -/
theorem utf8Size_of_mem_ofInt {n : Int} {c : Char} (member : c ∈ (Numeral.ofInt n).toList) :
    c.utf8Size = 1 := by
  rcases Numeral.mem_ofInt member with rfl | digit
  · decide
  · exact Numeral.utf8Size_of_isDigit digit

/-- None of them is a newline, nor is its byte. -/
theorem newline_not_mem_utf8EncodeChar {n : Int} {c : Char}
    (member : c ∈ (Numeral.ofInt n).toList) : 10 ∉ String.utf8EncodeChar c := by
  rw [String.utf8EncodeChar_eq_singleton (utf8Size_of_mem_ofInt member), List.mem_singleton]
  intro same
  have value : 10 = c.toNat % 256 := (congrArg UInt8.toNat same).trans (UInt32.toNat_toUInt8 c.val)
  rcases Numeral.mem_ofInt member with rfl | digit
  · exact absurd value (by decide)
  · obtain ⟨low, high⟩ := Numeral.isDigit_iff.1 digit
    rw [Char.le_def, UInt32.le_iff_toNat_le] at low high
    have least : 48 ≤ c.toNat := low
    have most : c.toNat ≤ 57 := high
    omega

/-- Up to its newline, a result line is read as a text that no newline ends. -/
theorem cutShort_of_prefix_ofInt (ahead : front <+: encode (Numeral.ofInt r.result.toInt)) :
    CutShort r front ((parse front).mapError .flaw) := by
  rw [encode_eq_flatMap] at ahead
  obtain ⟨kept, among, rfl⟩ :=
    exists_of_prefix_of_ascii (fun c => utf8Size_of_mem_ofInt) ahead
  have unended : '\n' ∉ (String.ofList kept).toList := by
    rw [String.toList_ofList]
    intro member
    exact newline_not_mem_ofInt _ (among.subset member)
  have before : 10 ∉ kept.flatMap String.utf8EncodeChar := by
    intro member
    obtain ⟨c, inside, here⟩ := List.mem_flatMap.1 member
    exact newline_not_mem_utf8EncodeChar (among.subset inside) here
  have parsed : parse (kept.flatMap String.utf8EncodeChar)
      = .error (.invalidReply .noResultLine) := by
    rw [← encode_ofList, parse, decode_encode]
    simp only [splitLine_of_not_mem unended]
  rw [parsed]
  exact .inLine before

/-- Behind the result line, what is there of the output is read, if it is a text. -/
theorem cutShort_of_resultLine {rest : List UInt8} (ahead : rest <+: encode r.output) :
    CutShort r (encode (resultLine r.result) ++ rest)
      ((parse (encode (resultLine r.result) ++ rest)).mapError .flaw) := by
  rw [parse_resultLine_append]
  cases decoded : decode rest with
  | some output =>
      obtain rfl := decode_eq_some_iff.1 decoded
      exact .inOutput rfl ahead
  | none =>
      refine .inCharacter rfl ahead ?_
      rintro text rfl
      rw [decode_encode] at decoded
      cases decoded

/-- A front of a reply is taken for no reply, for the same one with less output, or for one that
is no text. -/
theorem cutShort_parse (ahead : front <+: r.layout) :
    CutShort r front ((parse front).mapError .flaw) := by
  obtain ⟨missing, whole⟩ := ahead
  rcases List.append_eq_append_iff.1 whole with ⟨more, line, -⟩ | ⟨rest, rfl, output⟩
  · -- The result line is not exceeded, but its newline may be there.
    have within : front <+: encode (Numeral.ofInt r.result.toInt) ++ [10] := by
      rw [← encode_resultLine, line]
      exact List.prefix_append front more
    rcases List.prefix_concat_iff.1 within with all | short
    · rw [← encode_resultLine] at all
      rw [all, ← List.append_nil (encode (resultLine r.result))]
      exact cutShort_of_resultLine List.nil_prefix
    · exact cutShort_of_prefix_ofInt short
  · exact cutShort_of_resultLine ⟨missing, output.symm⟩

/-- What was written of a reply is its layout. -/
theorem layout_of_sends (sends : r.Sends bytes) : r.layout = bytes := by
  obtain ⟨sink, after, written, new⟩ := sends
  rw [written_of_write written] at new
  exact List.append_cancel_left new

end Reply

/-- Of a request of which the end is missing nothing is made, and of a reply nothing but its own
result and the front of its output. -/
theorem Reader.notices_what_is_missing :
    (∀ (r : Request) (bytes front : List UInt8) (s : Source), r.Sends bytes →
        (∀ text ∈ r.name :: r.args, '\x00' ∉ text.toList) → front <+: bytes → front ≠ bytes →
        s.arriving = front → s.ending = .ended →
        ∃ t, Request.read s = (.error (.flaw .truncated), t)
          ∧ t.taken = s.taken + front.length)
      ∧ ∀ (r : Reply) (bytes front : List UInt8) (s : Source), r.Sends bytes → front <+: bytes →
        s.arriving = front → s.ending = .ended → r.CutShort front (Reply.read s).1 := by
  constructor
  · intro r bytes front s sends clean ahead proper arrives ends
    exact (Request.starves_of_sends sends clean ahead proper).truncated arrives ends
  · intro r bytes front s sends ahead arrives ends
    rw [← Reply.layout_of_sends sends] at ahead
    have cut := Reply.cutShort_parse ahead
    have delivered := Reply.delivered_read s
    generalize (Reply.read s).1 = answer at delivered ⊢
    cases delivered with
    | ended =>
        rw [arrives]
        exact cut
    | failed other | silent other =>
        rw [ends] at other
        cases other

/-- The request is cut between two fields, and the reply inside the two bytes of its letter. -/
theorem Reader.notices_what_is_missing_inside_a_character :
    Request.Sends ⟨.v1, "a", []⟩ [49, 0, 97, 0, 0, 0, 0]
      ∧ (∃ t, Request.read (.ofBytes [49, 0, 97]) = (.error (.flaw .truncated), t) ∧ t.taken = 3)
      ∧ Reply.Sends ⟨-7, "é\n"⟩ [45, 55, 10, 195, 169, 10]
      ∧ Reply.CutShort ⟨-7, "é\n"⟩ [45, 55, 10, 195]
        (Reply.read (.ofBytes [45, 55, 10, 195])).1 := by
  have request : Request.Sends ⟨.v1, "a", []⟩ [49, 0, 97, 0, 0, 0, 0] := ⟨{}, _, rfl, rfl⟩
  have reply : Reply.Sends ⟨-7, "é\n"⟩ [45, 55, 10, 195, 169, 10] := ⟨{}, _, rfl, rfl⟩
  exact ⟨request,
    notices_what_is_missing.1 _ _ _ _ request (by decide) (by decide) (by decide)
      (Source.arriving_ofBytes _) (Source.ending_ofBytes _),
    reply,
    notices_what_is_missing.2 _ _ _ _ reply (by decide) (Source.arriving_ofBytes _)
      (Source.ending_ofBytes _)⟩

end AttachService
