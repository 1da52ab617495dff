/-
Module: AttachService.Proofs.Wire.RoundTrip
Purpose: A request that was written is read back, field by field, whatever comes after it.
Trusted boundary: none
Main exports: Request.texts, Request.pieces, Request.Received, Request.read_of_write
-/
import AttachService.Proofs.Wire.Messages

namespace AttachService.Request

/-!
A field ends at its first NUL byte, also when the NUL is part of a text.  So what is written
is a list of pieces without NULs, and they are what is read.
-/

open Utf8

variable {s : Source} {sink after : Sink} {bytes rest : List UInt8} {text : String}
  {r : Request}

/-- The texts that are written as fields. -/
def texts (r : Request) : List String :=
  match r.version with
  | .v1 => r.name :: padded r.args
  | .v2 => r.name :: r.args

/-- The fields that these texts make on the channel. -/
def pieces (r : Request) : List String := r.texts.flatMap Utf8.pieces

/-- What is written of texts with NULs in them is what is written of their pieces. -/
theorem flatMap_field_pieces (r : Request) : r.pieces.flatMap field = r.texts.flatMap field := by
  rw [pieces, List.flatMap_assoc]
  congr 1
  funext text
  exact Utf8.flatMap_pieces text

theorem zero_not_mem_of_mem_pieces (member : text ∈ r.pieces) : 0 ∉ encode text := by
  obtain ⟨whole, -, piece⟩ := List.mem_flatMap.1 member
  exact Utf8.zero_not_mem_of_mem_pieces piece

/-- A piece is not longer than the text it was cut from. -/
theorem utf8ByteSize_le_of_mem_pieces {whole : String} (member : text ∈ Utf8.pieces whole) :
    text.utf8ByteSize ≤ whole.utf8ByteSize := by
  obtain ⟨before, beyond, cut⟩ := List.append_of_mem member
  have size := congrArg List.length (Utf8.flatMap_pieces whole)
  rw [cut] at size
  simp only [List.flatMap_append, List.flatMap_cons, List.length_append, List.length_singleton,
    length_encode] at size
  omega

/-- The first piece of a request is a piece of its name. -/
theorem pieces_eq_cons (r : Request) :
    ∃ first others, r.pieces = first :: others ∧ first.utf8ByteSize ≤ r.name.utf8ByteSize := by
  obtain ⟨more, named⟩ : ∃ more, r.texts = r.name :: more := by
    unfold texts
    cases r.version with
    | v1 => exact ⟨_, rfl⟩
    | v2 => exact ⟨_, rfl⟩
  obtain ⟨first, others, cut⟩ := List.exists_cons_of_ne_nil (Utf8.pieces_ne_nil r.name)
  have short : first.utf8ByteSize ≤ r.name.utf8ByteSize := by
    apply utf8ByteSize_le_of_mem_pieces
    rw [cut]
    exact List.mem_cons_self
  refine ⟨first, others ++ more.flatMap Utf8.pieces, ?_, short⟩
  rw [pieces, named, List.flatMap_cons, cut, List.cons_append]

/-- Every text makes a piece at least. -/
theorem length_le_length_flatMap (texts : List String) :
    texts.length ≤ (texts.flatMap Utf8.pieces).length := by
  induction texts with
  | nil => exact Nat.zero_le _
  | cons text texts ih =>
      have nonempty := List.length_pos_iff.2 (Utf8.pieces_ne_nil text)
      rw [List.flatMap_cons, List.length_append, List.length_cons]
      omega

/-- A request without NULs is written as it is. -/
theorem pieces_of_clean (clean : ∀ text ∈ r.texts, '\x00' ∉ text.toList) : r.pieces = r.texts := by
  unfold pieces
  generalize r.texts = texts at clean
  induction texts with
  | nil => rfl
  | cons text texts ih =>
      rw [List.flatMap_cons, Utf8.pieces_of_not_mem (clean text List.mem_cons_self),
        ih fun other member => clean other (List.mem_cons_of_mem text member)]
      rfl

/-- The missing arguments are no obstacle. -/
theorem clean_texts (clean : ∀ text ∈ r.name :: r.args, '\x00' ∉ text.toList) :
    ∀ text ∈ r.texts, '\x00' ∉ text.toList := by
  unfold texts
  cases r.version with
  | v1 =>
      intro text member
      rw [padded, ← List.cons_append] at member
      rcases List.mem_append.1 member with given | missing
      · exact clean text given
      · rw [List.eq_of_mem_replicate missing]
        exact List.not_mem_nil
  | v2 => exact clean

/-- How a request is received: `got` is read on the way from `s` to `t`, when `bytes` were
written of `r` and `rest` comes after them. -/
structure Received (r got : Request) (bytes rest : List UInt8) (s t : Source) : Prop where
  version : got.version = r.version
  /-- All pieces of a version 2 request are received. -/
  sized : r.version = .v2 → got.name :: got.args = r.pieces ∧ s.Passes bytes t
  /-- Of a version 1 request only so many are, and the others are left. -/
  inline : r.version = .v1 → got.args.length = Limits.arguments
    ∧ got.name :: got.args <+: r.pieces
    ∧ s.Passes (("1" :: got.name :: got.args).flatMap field) t
  clean : (∀ text ∈ r.name :: r.args, '\x00' ∉ text.toList) →
    got.name :: got.args = r.texts ∧ t.arriving = rest

/-- A version 2 request arrives as all of its pieces. -/
theorem read_of_layout_sized {name : String} {args : List String}
    (laid : layout ⟨.v2, name, args⟩ = .ok bytes) (arrives : s.arriving = bytes ++ rest) :
    ∃ got t, read s = (.ok got, t) ∧ Received ⟨.v2, name, args⟩ got bytes rest s t := by
  obtain ⟨bounded, fits, rfl⟩ := of_layout_sized laid
  obtain ⟨first, others, cut, short⟩ := pieces_eq_cons ⟨.v2, name, args⟩
  have same : (first :: others).flatMap field = (name :: args).flatMap field := by
    rw [← cut]
    exact flatMap_field_pieces ⟨.v2, name, args⟩
  rw [← same] at fits arrives ⊢
  rw [List.append_assoc, List.append_assoc] at arrives
  obtain ⟨t, one, goes⟩ := read_sized_of_arriving arrives
  obtain ⟨u, got, more⟩ := readSized_of_arriving
    (fun text member => zero_not_mem_of_mem_pieces (cut ▸ member))
    (Nat.le_trans short bounded) fits (one.rest_eq arrives)
  refine ⟨⟨.v2, first, others⟩, u, goes.trans got, ?_⟩
  have passes := one.trans more
  rw [← List.append_assoc] at passes arrives
  rw [← List.append_assoc] at arrives
  exact {
    version := rfl
    sized := fun _ => ⟨cut.symm, passes⟩
    inline := fun other => by cases other
    clean := by
      intro clean
      refine ⟨?_, passes.rest_eq arrives⟩
      rw [← cut]
      exact pieces_of_clean (clean_texts clean) }

theorem length_padded {args : List String} (few : args.length ≤ Limits.arguments) :
    (padded args).length = Limits.arguments := by
  rw [padded, List.length_append, List.length_replicate]
  omega

/-- No piece of a version 1 request is longer than an argument may be. -/
theorem utf8ByteSize_le_argumentBytes {name : String} {args : List String}
    (short : name.utf8ByteSize ≤ Limits.nameBytes)
    (fit : ∀ arg ∈ args, arg.utf8ByteSize ≤ Limits.argumentBytes)
    (member : text ∈ pieces ⟨.v1, name, args⟩) : text.utf8ByteSize ≤ Limits.argumentBytes := by
  obtain ⟨whole, among, piece⟩ := List.mem_flatMap.1 member
  apply Nat.le_trans (utf8ByteSize_le_of_mem_pieces piece)
  rcases List.mem_cons.1 among with rfl | argument
  · exact Nat.le_trans short (by decide)
  · rcases List.mem_append.1 argument with given | missing
    · exact fit whole given
    · rw [List.eq_of_mem_replicate missing]
      exact Nat.zero_le _

/-- A version 1 request arrives as the first four of them. -/
theorem read_of_layout_inline {name : String} {args : List String}
    (laid : layout ⟨.v1, name, args⟩ = .ok bytes) (arrives : s.arriving = bytes ++ rest) :
    ∃ got t, read s = (.ok got, t) ∧ Received ⟨.v1, name, args⟩ got bytes rest s t := by
  obtain ⟨bounded, few, fit, rfl⟩ := of_layout_inline laid
  obtain ⟨first, others, cut, short⟩ := pieces_eq_cons ⟨.v1, name, args⟩
  have same : (first :: others).flatMap field = (name :: padded args).flatMap field := by
    rw [← cut]
    exact flatMap_field_pieces ⟨.v1, name, args⟩
  have enough : Limits.arguments ≤ others.length := by
    have total := length_le_length_flatMap (name :: padded args)
    have whole : (name :: padded args).flatMap Utf8.pieces = first :: others := cut
    rw [whole, List.length_cons, List.length_cons, length_padded few] at total
    exact Nat.le_of_succ_le_succ total
  -- The first three pieces after the name are read, whichever texts they come from.
  obtain ⟨front, later, rfl, count⟩ : ∃ front later, others = front ++ later
      ∧ front.length = Limits.arguments :=
    ⟨others.take Limits.arguments, others.drop Limits.arguments,
      (List.take_append_drop _ _).symm, List.length_take_of_le enough⟩
  have among : ∀ text ∈ first :: front, text ∈ pieces ⟨.v1, name, args⟩ := by
    intro text member
    rw [cut, ← List.cons_append]
    exact List.mem_append_left later member
  rw [List.flatMap_cons, ← same, ← List.cons_append, List.flatMap_append, List.append_assoc,
    List.append_assoc] at arrives
  obtain ⟨t, one, goes⟩ := read_inline_of_arriving arrives
  obtain ⟨u, got, more⟩ := readInline_of_arriving
    (fun text member => zero_not_mem_of_mem_pieces (among text member)) count
    (Nat.le_trans short bounded)
    (fun arg member => utf8ByteSize_le_argumentBytes bounded fit
      (among arg (List.mem_cons_of_mem first member)))
    (one.rest_eq arrives)
  refine ⟨⟨.v1, first, front⟩, u, goes.trans got, ?_⟩
  have passes := one.trans more
  rw [← List.append_assoc] at arrives
  exact {
    version := rfl
    sized := fun other => by cases other
    inline := fun _ => ⟨count, ⟨later, cut.symm⟩, passes⟩
    clean := by
      intro clean
      have whole : first :: (front ++ later) = name :: padded args :=
        cut.symm.trans (pieces_of_clean (clean_texts clean))
      have nothing : later = [] := by
        have total := congrArg List.length whole
        rw [List.length_cons, List.length_cons, List.length_append, length_padded few] at total
        exact List.eq_nil_of_length_eq_zero (by omega)
      subst nothing
      rw [List.append_nil] at whole
      exact ⟨whole, passes.rest_eq arrives⟩ }

/-- What was written of a request is received, whatever portions it was written in, whatever
pieces it arrives in, and whatever comes after it. -/
theorem read_of_write (written : r.write sink = (.ok (), after))
    (new : after.written = sink.written ++ bytes) (arrives : s.arriving = bytes ++ rest) :
    ∃ got t, read s = (.ok got, t) ∧ r.Received got bytes rest s t := by
  have laid := layout_of_write written new
  obtain ⟨version, name, args⟩ := r
  cases version with
  | v1 => exact read_of_layout_inline laid arrives
  | v2 => exact read_of_layout_sized laid arrives

/-- The NUL in the name makes an argument of what comes after it, and the last one is not read. -/
theorem read_of_write_with_nul :
    write ⟨.v1, "a\x00b", ["c"]⟩ {}
        = (.ok (), { reversed := [0, 0, 0, 99, 0, 98, 0, 97, 0, 49], flushes := 1 })
      ∧ ∃ got t, read (.ofBytes [49, 0, 97, 0, 98, 0, 99, 0, 0, 0, 7]) = (.ok got, t)
        ∧ Received ⟨.v1, "a\x00b", ["c"]⟩ got [49, 0, 97, 0, 98, 0, 99, 0, 0, 0] [7]
          (.ofBytes [49, 0, 97, 0, 98, 0, 99, 0, 0, 0, 7]) t := by
  have written : write ⟨.v1, "a\x00b", ["c"]⟩ {}
      = (.ok (), { reversed := [0, 0, 0, 99, 0, 98, 0, 97, 0, 49], flushes := 1 }) := by
    rfl
  exact ⟨written, read_of_write written rfl (Source.arriving_ofBytes _)⟩

end AttachService.Request
