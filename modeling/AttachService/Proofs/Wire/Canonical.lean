/-
Module: AttachService.Proofs.Wire.Canonical
Purpose: A request that was read is written as the bytes it was read from, but for the spelling
  of its size.
Trusted boundary: none
Main exports: Request.Respelled, Request.Rewritten, Request.rewritten_of_spells,
  Request.write_of_read
-/
import AttachService.Proofs.Wire.Reading

namespace AttachService.Request

/-!
The reader accepts nothing that the writer would refuse, and the two agree on every byte but
those of the size field: a size may be read with a plus sign and with zeros in front, and is
written without them.
-/

open Utf8

variable {s t : Source} {r : Request} {front other : List UInt8} {name : String}
  {args : List String}

/-- The same bytes, but for the spelling of the size of a version 2 request. -/
inductive Respelled : List UInt8 → List UInt8 → Prop where
  | same (bytes : List UInt8) : Respelled bytes bytes
  | size {first second : String} {body : List UInt8} (stated : States first body.length)
      (again : States second body.length) :
      Respelled (field "2" ++ field first ++ body) (field "2" ++ field second ++ body)

/-- What is written of a request that was read, taking the bytes `consumed`. -/
structure Rewritten (r : Request) (consumed bytes : List UInt8) : Prop where
  clean : ∀ text ∈ r.name :: r.args, '\x00' ∉ text.toList
  /-- The request respects all bounds of the writer. -/
  laid : r.layout = .ok bytes
  writes : ∀ sink : Sink, sink.Reliable →
    ∃ after, r.write sink = (.ok (), after) ∧ after.written = sink.written ++ bytes
  inline : r.version = .v1 → bytes = consumed
  sized : r.version = .v2 → ∃ size,
    consumed = field "2" ++ field size ++ r.body
      ∧ States size r.body.length
      ∧ bytes = field "2" ++ field (Numeral.ofNat r.body.length) ++ r.body
      ∧ (bytes = consumed ↔ Numeral.Plain size)
  /-- Whatever else is read as this request is the same but for the size. -/
  unique : ∀ {s t : Source}, read s = (.ok r, t) →
    ∃ others, s.Passes others t ∧ Respelled consumed others

/-- Different texts make different fields. -/
theorem field_injective {first second : String} (same : field first = field second) :
    first = second :=
  encode_injective (List.append_cancel_right same)

/-- Bytes that spell the same request differ in the size at most. -/
theorem respelled_of_spells (spells : Spells front r) (again : Spells other r) :
    Respelled front other := by
  cases spells with
  | inline =>
      cases again with
      | inline => exact .same _
  | sized stated =>
      cases again with
      | sized restated => exact .size stated restated

/-- A request is read from the bytes that spell it. -/
theorem exists_spells_of_read (got : read s = (.ok r, t)) :
    ∃ consumed, s.Passes consumed t ∧ Spells consumed r := by
  obtain ⟨front, rest, arrives, spells⟩ := read_eq_ok_iff.1 (congrArg Prod.fst got)
  obtain ⟨u, read, passes⟩ := read_of_spells spells arrives
  rw [got] at read
  cases read
  exact ⟨front, passes, spells⟩

/-! ### What the writer makes of it -/

/-- A text that was read from a field has no NUL in it. -/
theorem clean_of_spells (spells : Spells front r) :
    ∀ text ∈ r.name :: r.args, '\x00' ∉ text.toList := by
  intro text member
  rw [← zero_mem_encode_iff]
  cases spells with
  | inline named given =>
      rcases List.mem_cons.1 member with rfl | later
      · exact named.clean
      · exact (given text later).clean
  | sized _ named given =>
      rcases List.mem_cons.1 member with rfl | later
      · exact named.clean
      · exact given text later

/-- A version 1 request that was read has as many arguments as are written, none too long. -/
theorem layout_of_holds (named : Holds Limits.nameBytes name)
    (given : ∀ arg ∈ args, Holds Limits.argumentBytes arg)
    (count : args.length = Limits.arguments) :
    layout ⟨.v1, name, args⟩ = .ok (("1" :: name :: args).flatMap field) := by
  have complete : padded args = args := by
    rw [padded, count, Nat.sub_self, List.replicate_zero, List.append_nil]
  have within : Within ⟨.v1, name, args⟩ := {
    name := named.fits
    inline := fun _ => ⟨Nat.le_of_eq count, fun arg member => (given arg member).fits⟩
    sized := fun other => by cases other }
  rw [layout_of_within within]
  simp only [message, complete]

/-- The size of a body is written as a plain numeral, however it was spelt. -/
theorem layout_of_stated {size : String}
    (stated : States size ((name :: args).flatMap field).length)
    (named : Holds Limits.nameBytes name) :
    layout ⟨.v2, name, args⟩ = .ok (field "2"
      ++ field (Numeral.ofNat ((name :: args).flatMap field).length)
      ++ (name :: args).flatMap field) := by
  have within : Within ⟨.v2, name, args⟩ := {
    name := named.fits
    inline := fun other => by cases other
    sized := fun _ => length_fields name args ▸ stated.bounded }
  rw [layout_of_within within, length_fields]
  rfl

/-- Nothing but the size tells what is written from what was read. -/
theorem sized_eq_iff {size : String} {body : List UInt8} (stated : States size body.length) :
    field "2" ++ field (Numeral.ofNat body.length) ++ body = field "2" ++ field size ++ body
      ↔ Numeral.Plain size := by
  rw [Numeral.plain_iff_eq_ofNat stated.numeral stated.positive]
  constructor
  · intro same
    have sizes := List.append_cancel_left (List.append_cancel_right same)
    exact (field_injective sizes).symm
  · intro same
    rw [← same]

/-- A sink that takes everything takes the whole request. -/
theorem write_of_reliable {bytes : List UInt8} (laid : r.layout = .ok bytes) {sink : Sink}
    (reliable : sink.Reliable) :
    ∃ after, r.write sink = (.ok (), after) ∧ after.written = sink.written ++ bytes := by
  obtain ⟨through, wrote, still, written⟩ := reliable.writeAll bytes
  obtain ⟨after, flushed, kept⟩ := still.flush
  refine ⟨after, ?_, kept.trans written⟩
  simp only [write, laid, wrote, flushed]

/-- Whatever spells a request, the same is written of it but for the size. -/
theorem rewritten_of_spells (spells : Spells front r) : ∃ bytes, r.Rewritten front bytes := by
  have clean := clean_of_spells spells
  have unique : ∀ {s t : Source}, read s = (.ok r, t) →
      ∃ others, s.Passes others t ∧ Respelled front others := by
    intro s t got
    obtain ⟨others, passes, again⟩ := exists_spells_of_read got
    exact ⟨others, passes, respelled_of_spells spells again⟩
  cases spells with
  | inline named given count =>
      have laid := layout_of_holds named given count
      exact ⟨_, {
        clean := clean
        laid := laid
        writes := fun _ => write_of_reliable laid
        inline := fun _ => rfl
        sized := fun other => by cases other
        unique := unique }⟩
  | @sized size name args stated named =>
      have laid := layout_of_stated stated named
      exact ⟨_, {
        clean := clean
        laid := laid
        writes := fun _ => write_of_reliable laid
        inline := fun other => by cases other
        sized := fun _ => ⟨size, rfl, stated, rfl, sized_eq_iff stated⟩
        unique := unique }⟩

/-- Whatever was read is written again, as it was read but for the spelling of the size. -/
theorem write_of_read (got : read s = (.ok r, t)) :
    ∃ consumed bytes, s.Passes consumed t ∧ r.Rewritten consumed bytes := by
  obtain ⟨consumed, passes, spells⟩ := exists_spells_of_read got
  obtain ⟨bytes, rewritten⟩ := rewritten_of_spells spells
  exact ⟨consumed, bytes, passes, rewritten⟩

/-- A size with a plus sign and a zero in front is written without them. -/
theorem write_of_read_signed :
    read (.ofBytes [50, 0, 43, 48, 50, 0, 120, 0, 7])
        = (.ok ⟨.v2, "x", []⟩, ⟨[.piece [7]], 8⟩)
      ∧ ∃ consumed bytes,
        (Source.ofBytes [50, 0, 43, 48, 50, 0, 120, 0, 7]).Passes consumed ⟨[.piece [7]], 8⟩
          ∧ Rewritten ⟨.v2, "x", []⟩ consumed bytes := by
  have got : read (.ofBytes [50, 0, 43, 48, 50, 0, 120, 0, 7])
      = (.ok ⟨.v2, "x", []⟩, ⟨[.piece [7]], 8⟩) := by
    rfl
  exact ⟨got, write_of_read got⟩

end AttachService.Request
