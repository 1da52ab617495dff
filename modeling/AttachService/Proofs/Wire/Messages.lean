/-
Module: AttachService.Proofs.Wire.Messages
Purpose: The bytes of a request that is written, and reading them with anything after them.
Trusted boundary: none
Main exports: Request.of_layout_inline, Request.of_layout_sized, Request.layout_of_write,
  Request.read_inline_of_arriving, Request.read_sized_of_arriving
-/
import AttachService.Proofs.Wire.Fields
import AttachService.Proofs.Wire.Validating

namespace AttachService.Request

open Utf8

variable {s : Source} {sink after : Sink} {bytes rest : List UInt8} {name : String}
  {args : List String} {r : Request}

/-! ### What is written -/

/-- The bytes of a version 1 request, and the bounds it respects. -/
theorem of_layout_inline (laid : layout ⟨.v1, name, args⟩ = .ok bytes) :
    name.utf8ByteSize ≤ Limits.nameBytes ∧ args.length ≤ Limits.arguments
      ∧ (∀ arg ∈ args, arg.utf8ByteSize ≤ Limits.argumentBytes)
      ∧ bytes = ("1" :: name :: padded args).flatMap field := by
  obtain ⟨within, rfl⟩ := layout_eq_ok_iff.1 laid
  obtain ⟨few, fit⟩ := within.inline rfl
  exact ⟨within.name, few, fit, rfl⟩

/-- The bytes of a version 2 request, and the bounds it respects. -/
theorem of_layout_sized (laid : layout ⟨.v2, name, args⟩ = .ok bytes) :
    name.utf8ByteSize ≤ Limits.nameBytes
      ∧ ((name :: args).flatMap field).length ≤ Limits.bodyBytes
      ∧ bytes = field "2" ++ field (Numeral.ofNat ((name :: args).flatMap field).length)
          ++ (name :: args).flatMap field := by
  obtain ⟨within, rfl⟩ := layout_eq_ok_iff.1 laid
  rw [length_fields]
  exact ⟨within.name, within.sized rfl, rfl⟩

/-- A request that was written was written whole. -/
theorem layout_of_write (written : r.write sink = (.ok (), after))
    (new : after.written = sink.written ++ bytes) : r.layout = .ok bytes := by
  rcases r.within_or_breaks with within | ⟨flaw, breaks⟩
  · obtain ⟨front, fills, wrote⟩ := write_of_within within sink
    rw [written, Prod.mk.injEq] at wrote
    have through : sink.mishap? r.message front = none := by
      cases mishap : sink.mishap? r.message front with
      | none => rfl
      | some fault =>
          rw [mishap] at wrote
          cases wrote.1
    have whole := fills.eq_iff.2 (fills.mishap?_eq_none_iff.1 through).1
    rw [wrote.2, Sink.written_sent, whole] at new
    rw [layout_of_within within, List.append_cancel_left new]
  · rw [write_of_breaks breaks] at written
    cases written

/-! ### What is read -/

/-- A version 1 request is read from its fields, and its last NUL is the last byte that is
taken. -/
theorem readInline_of_arriving (clean : ∀ text ∈ name :: args, 0 ∉ encode text)
    (count : args.length = Limits.arguments) (short : name.utf8ByteSize ≤ Limits.nameBytes)
    (fit : ∀ arg ∈ args, arg.utf8ByteSize ≤ Limits.argumentBytes)
    (arrives : s.arriving = (name :: args).flatMap field ++ rest) :
    ∃ t, readInline s = (.ok ⟨.v1, name, args⟩, t)
      ∧ s.Passes ((name :: args).flatMap field) t := by
  rw [List.flatMap_cons, List.append_assoc] at arrives
  obtain ⟨t, first, one⟩ := readField_of_arriving (clean name List.mem_cons_self) short arrives
  obtain ⟨u, others, more⟩ := readFields_of_arriving
    (fun arg member => clean arg (List.mem_cons_of_mem name member)) fit (one.rest_eq arrives)
  rw [count] at others
  refine ⟨u, ?_, one.trans more⟩
  simp only [readInline, first, others]

/-- A size is good if it denotes the length of a body that may be. -/
theorem bodyLength?_eq_some_iff {size : String} {length : Nat} :
    bodyLength? size = some length
      ↔ Numeral.Denotes size length ∧ 1 ≤ length ∧ length ≤ Limits.bodyBytes := by
  rw [bodyLength?, Option.filter_eq_some_iff, Numeral.natural?_eq_some_iff, decide_eq_true_eq,
    Nat.lt_succ_iff, and_assoc, and_comm (a := length ≤ Limits.bodyBytes)]

/-- A version 2 request is read from as many bytes as its size states. -/
theorem readSized_of_stated {size : String}
    (stated : States size ((name :: args).flatMap field).length)
    (clean : ∀ text ∈ name :: args, 0 ∉ encode text) (short : name.utf8ByteSize ≤ Limits.nameBytes)
    (arrives : s.arriving = field size ++ ((name :: args).flatMap field ++ rest)) :
    ∃ t, readSized s = (.ok ⟨.v2, name, args⟩, t)
      ∧ s.Passes (field size ++ (name :: args).flatMap field) t := by
  obtain ⟨t, first, one⟩ := readField_of_arriving stated.holds.clean stated.holds.fits arrives
  obtain ⟨u, whole, more⟩ := Source.exactly_of_arriving (one.rest_eq arrives)
  have cut := splitBody_flatMap clean short
  have length := bodyLength?_eq_some_iff.2 ⟨stated.numeral, stated.positive, stated.bounded⟩
  refine ⟨u, ?_, one.trans more⟩
  simp only [readSized, first, length, whole, cut]

/-- A version 2 request is read if its size is written as the writer does. -/
theorem readSized_of_arriving (clean : ∀ text ∈ name :: args, 0 ∉ encode text)
    (short : name.utf8ByteSize ≤ Limits.nameBytes)
    (fits : ((name :: args).flatMap field).length ≤ Limits.bodyBytes)
    (arrives : s.arriving = field (Numeral.ofNat ((name :: args).flatMap field).length)
      ++ ((name :: args).flatMap field ++ rest)) :
    ∃ t, readSized s = (.ok ⟨.v2, name, args⟩, t)
      ∧ s.Passes (field (Numeral.ofNat ((name :: args).flatMap field).length)
        ++ (name :: args).flatMap field) t := by
  have nonempty : 1 ≤ ((name :: args).flatMap field).length := by
    rw [flatMap_field_eq (List.cons_ne_nil name args), List.length_append]
    exact Nat.le_add_left 1 _
  exact readSized_of_stated (states_ofNat nonempty fits) clean short arrives

/-- The version field comes first, and says how to go on. -/
theorem read_inline_of_arriving (arrives : s.arriving = field "1" ++ rest) :
    ∃ t, s.Passes (field "1") t ∧ read s = readInline t := by
  obtain ⟨t, version, passes⟩ : ∃ t, readField Limits.headerBytes s = (.ok "1", t)
      ∧ s.Passes (field "1") t := readField_of_arriving (by decide) (by decide) arrives
  refine ⟨t, passes, ?_⟩
  simp only [read, version, if_true]

theorem read_sized_of_arriving (arrives : s.arriving = field "2" ++ rest) :
    ∃ t, s.Passes (field "2") t ∧ read s = readSized t := by
  obtain ⟨t, version, passes⟩ : ∃ t, readField Limits.headerBytes s = (.ok "2", t)
      ∧ s.Passes (field "2") t := readField_of_arriving (by decide) (by decide) arrives
  refine ⟨t, passes, ?_⟩
  have other : "2" ≠ "1" := by decide
  simp only [read, version, if_neg other, if_true]

end AttachService.Request
