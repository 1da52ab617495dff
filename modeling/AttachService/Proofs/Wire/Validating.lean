/-
Module: AttachService.Proofs.Wire.Validating
Purpose: A request that breaks a bound is refused before anything is written, and of any other
  request nothing but a front of one message is written.
Trusted boundary: none
Main exports: Request.bodySize, Request.message, Request.Breaks, Request.Within,
  Request.layout_eq_ok_iff, Request.Wrote, Request.validates_before_writing
-/
import AttachService.Proofs.Stream.Writing
import AttachService.Proofs.Wire.Grammar

namespace AttachService.Request

/-!
The bounds are said without the writer: `Breaks` lists them in the order in which they are looked
at, and `Within` is what is left when none of them is broken.  The writer looks at all of them
before it offers the first byte, so half a request can only be on its way because of the sink.
-/

open Utf8

variable {r : Request} {flaw : Flaw} {sink after : Sink} {bytes front : List UInt8}

/-! ### The bounds -/

/-- How many bytes the fields of a request take in a body: those of each text, and a NUL. -/
def bodySize (r : Request) : Nat :=
  (r.name :: r.args).foldr (fun text size => text.utf8ByteSize + 1 + size) 0

theorem length_field (text : String) : (field text).length = text.utf8ByteSize + 1 := by
  rw [field, List.length_append, length_encode]
  rfl

/-- The size that is written is the length of the body. -/
theorem length_body (r : Request) : r.body.length = r.bodySize := by
  rw [body, bodySize]
  generalize r.name :: r.args = texts
  induction texts with
  | nil => rfl
  | cons text texts ih =>
      rw [List.flatMap_cons, List.length_append, length_field, ih, List.foldr_cons]

theorem length_fields (name : String) (args : List String) :
    ((name :: args).flatMap field).length = bodySize ⟨.v2, name, args⟩ :=
  length_body ⟨.v2, name, args⟩

/-- The first bound that a request breaks, and the flaw that it is reported as. -/
inductive Breaks (r : Request) : Flaw → Prop where
  | name (long : Limits.nameBytes < r.name.utf8ByteSize) :
      Breaks r (.tooLong Limits.nameBytes)
  | arguments (inline : r.version = .v1) (short : r.name.utf8ByteSize ≤ Limits.nameBytes)
      (many : Limits.arguments < r.args.length) :
      Breaks r (.tooManyArguments Limits.arguments)
  | argument {arg : String} (inline : r.version = .v1)
      (short : r.name.utf8ByteSize ≤ Limits.nameBytes) (few : r.args.length ≤ Limits.arguments)
      (member : arg ∈ r.args) (long : Limits.argumentBytes < arg.utf8ByteSize) :
      Breaks r (.tooLong Limits.argumentBytes)
  | body (sized : r.version = .v2) (short : r.name.utf8ByteSize ≤ Limits.nameBytes)
      (long : Limits.bodyBytes < r.bodySize) : Breaks r (.tooLong Limits.bodyBytes)

/-- No bound is broken. -/
structure Within (r : Request) : Prop where
  name : r.name.utf8ByteSize ≤ Limits.nameBytes
  inline : r.version = .v1 → r.args.length ≤ Limits.arguments
    ∧ ∀ arg ∈ r.args, arg.utf8ByteSize ≤ Limits.argumentBytes
  sized : r.version = .v2 → r.bodySize ≤ Limits.bodyBytes

/-- All bytes of a request, whatever its size. -/
def message (r : Request) : List UInt8 :=
  match r.version with
  | .v1 => ("1" :: r.name :: padded r.args).flatMap field
  | .v2 => field "2" ++ field (Numeral.ofNat r.bodySize) ++ r.body

/-- A request keeps within all bounds, or there is a first one that it breaks. -/
theorem within_or_breaks (r : Request) : r.Within ∨ ∃ flaw, r.Breaks flaw := by
  by_cases short : r.name.utf8ByteSize ≤ Limits.nameBytes
  · cases version : r.version with
    | v1 =>
        by_cases few : r.args.length ≤ Limits.arguments
        · by_cases fit : ∀ arg ∈ r.args, arg.utf8ByteSize ≤ Limits.argumentBytes
          · exact .inl ⟨short, fun _ => ⟨few, fit⟩, fun sized => nomatch version.symm.trans sized⟩
          · obtain ⟨arg, member, long⟩ :
                ∃ arg ∈ r.args, Limits.argumentBytes < arg.utf8ByteSize := by simpa using fit
            exact .inr ⟨_, .argument version short few member long⟩
        · exact .inr ⟨_, .arguments version short (Nat.lt_of_not_le few)⟩
    | v2 =>
        by_cases fits : r.bodySize ≤ Limits.bodyBytes
        · exact .inl ⟨short, fun inline => (nomatch version.symm.trans inline), fun _ => fits⟩
        · exact .inr ⟨_, .body version short (Nat.lt_of_not_le fits)⟩
  · exact .inr ⟨_, .name (Nat.lt_of_not_le short)⟩

/-- A request within the bounds is laid out as its message. -/
theorem layout_of_within (within : r.Within) : r.layout = .ok r.message := by
  rw [layout, if_neg (Nat.not_lt.2 within.name)]
  cases version : r.version with
  | v1 =>
      obtain ⟨few, fit⟩ := within.inline version
      have none : ¬ r.args.any (fun arg => Limits.argumentBytes < arg.utf8ByteSize) = true := by
        simpa using fit
      simp only [if_neg (Nat.not_lt.2 few), if_neg none, message, version]
  | v2 =>
      have fits := within.sized version
      simp only [length_body, if_neg (Nat.not_lt.2 fits), message, version]

/-- Of several bounds that are broken, the first is reported. -/
theorem layout_of_breaks (breaks : r.Breaks flaw) : r.layout = .error flaw := by
  cases breaks with
  | name long => rw [layout, if_pos long]
  | arguments inline short many =>
      simp only [layout, if_neg (Nat.not_lt.2 short), inline, if_pos many]
  | argument inline short few member long =>
      have some : r.args.any (fun arg => Limits.argumentBytes < arg.utf8ByteSize) = true :=
        List.any_eq_true.2 ⟨_, member, decide_eq_true long⟩
      simp only [layout, if_neg (Nat.not_lt.2 short), inline, if_neg (Nat.not_lt.2 few),
        if_pos some]
  | body sized short long =>
      simp only [layout, if_neg (Nat.not_lt.2 short), sized, length_body, if_pos long]

/-- A request has a layout if it is within the bounds, and then its message is that. -/
theorem layout_eq_ok_iff : r.layout = .ok bytes ↔ r.Within ∧ bytes = r.message := by
  constructor
  · intro laid
    rcases r.within_or_breaks with within | ⟨flaw, breaks⟩
    · cases (layout_of_within within).symm.trans laid
      exact ⟨within, rfl⟩
    · cases (layout_of_breaks breaks).symm.trans laid
  · rintro ⟨within, rfl⟩
    exact layout_of_within within

/-- A broken bound is never mistaken for a failure of the sink. -/
theorem Breaks.ne_io (breaks : r.Breaks flaw) (fault : Fault) : flaw ≠ .io fault := by
  cases breaks <;> nofun

/-! ### Writing -/

/-- Nothing is written of a request that breaks a bound. -/
theorem write_of_breaks (breaks : r.Breaks flaw) (sink : Sink) :
    r.write sink = (.error flaw, sink) := by
  simp only [write, layout_of_breaks breaks]

/-- Of any other one the sink gets as much as it accepts, and then a flush if that was all. -/
theorem write_of_within (within : r.Within) (sink : Sink) :
    ∃ front, sink.Fills r.message front ∧ r.write sink
      = (match sink.mishap? r.message front with
          | none => .ok ()
          | some fault => .error (.io fault),
        sink.sent r.message front) := by
  obtain ⟨front, fills, wrote⟩ := sink.writeAll_fills r.message
  refine ⟨front, fills, ?_⟩
  unfold Sink.mishap? Sink.sent
  by_cases whole : front = r.message
  · rw [if_pos whole] at wrote
    cases flushes : sink.flushFault with
    | none => simp [write, layout_of_within within, wrote, whole, Sink.flush, Sink.accept, flushes]
    | some fault =>
        simp [write, layout_of_within within, wrote, whole, Sink.flush, Sink.accept, flushes]
  · rw [if_neg whole] at wrote
    simp [write, layout_of_within within, wrote, whole]

/-- What becomes of a request within the bounds: this front of it goes through. -/
structure Wrote (r : Request) (sink : Sink) (front : List UInt8) (outcome : Except Flaw Unit)
    (after : Sink) : Prop where
  /-- It is the longest front that the sink accepts. -/
  fills : sink.Fills r.message front
  written : after.written = sink.written ++ front
  whole : front = r.message ↔ sink.Accepts r.message
  flushes : after.flushes = sink.flushes + if front = r.message then 1 else 0
  closes : after.closes = sink.closes
  /-- Only a whole message is flushed, after its last byte, and nothing else is done to the
  sink. -/
  marks : after.marks
    = (if front = r.message then [.flushed after.written.length] else []) ++ sink.marks
  succeeds : outcome = .ok () ↔ sink.Accepts r.message ∧ sink.flushFault = none
  fails : ∀ flaw, outcome = .error flaw ↔
    ∃ fault, flaw = .io fault ∧ sink.mishap? r.message front = some fault

/-- All bounds are looked at before the first byte is written. -/
theorem validates_before_writing (r : Request) (sink : Sink) :
    (∀ flaw, r.Breaks flaw ↔ (r.write sink).1 = .error flaw ∧ ∀ fault, flaw ≠ .io fault)
      ∧ (∀ flaw, r.Breaks flaw → (r.write sink).2 = sink)
      ∧ ((∀ flaw, ¬ r.Breaks flaw) →
        ∃ front, r.Wrote sink front (r.write sink).1 (r.write sink).2) := by
  refine ⟨?_, ?_, ?_⟩
  · intro flaw
    constructor
    · intro breaks
      rw [write_of_breaks breaks]
      exact ⟨rfl, breaks.ne_io⟩
    · rintro ⟨refused, own⟩
      rcases r.within_or_breaks with within | ⟨other, breaks⟩
      · obtain ⟨front, -, wrote⟩ := write_of_within within sink
        rw [wrote] at refused
        cases mishap : sink.mishap? r.message front with
        | none =>
            rw [mishap] at refused
            cases refused
        | some fault =>
            rw [mishap] at refused
            cases refused
            exact absurd rfl (own fault)
      · rw [write_of_breaks breaks] at refused
        cases refused
        exact breaks
  · intro flaw breaks
    rw [write_of_breaks breaks]
  · intro unbroken
    have within := r.within_or_breaks.resolve_right fun ⟨flaw, breaks⟩ => unbroken flaw breaks
    obtain ⟨front, fills, wrote⟩ := write_of_within within sink
    rw [wrote]
    refine ⟨front, ?_⟩
    exact {
      fills := fills
      written := sink.written_sent r.message front
      whole := fills.eq_iff
      flushes := sink.flushes_sent r.message front
      closes := sink.closes_sent r.message front
      marks := by
        rw [Sink.marks_sent, Sink.written_sent]
      succeeds := by
        rw [← fills.mishap?_eq_none_iff]
        cases sink.mishap? r.message front <;> simp
      fails := by
        intro flaw
        cases sink.mishap? r.message front <;> simp [eq_comm] }

end AttachService.Request
