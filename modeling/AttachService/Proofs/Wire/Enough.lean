/-
Module: AttachService.Proofs.Wire.Enough
Purpose: Which bytes are enough to know what is read of a request, so that a reader takes these
  and waits for no others.
Trusted boundary: none
Main exports: Request.SpoilsField, Request.Spoils, Request.Settles, Request.decides_iff_settles,
  Reader.reads_regardless_of_delivery
-/
import AttachService.Proofs.Wire.Prompt
import AttachService.Proofs.Wire.Reading

namespace AttachService

/-!
`Spells` lists the bytes of requests.  `Spoils` lists the bytes that are no beginning of a
request, but were up to the last of them: a field that has one byte too many, or whose NUL closes
no text, a field of the header that cannot be used, and a body that holds no command.  With the
last byte of either it is settled what is read, and the reader has to answer there: a byte more
may never come, since the client waits for the reply.
-/

namespace Request

open Utf8

variable {s : Source} {bytes front : List UInt8} {text : String} {texts : List String}
  {bound room count : Nat} {flaw : Flaw} {r : Request} {outcome : Except Flaw Request}

/-- With the last of these bytes it shows that no field of at most `bound` bytes begins with
them, and what is wrong. -/
inductive SpoilsField (bound : Nat) : List UInt8 → Flaw → Prop where
  | tooLong {bytes : List UInt8} (long : bytes.length = bound + 1) (clean : 0 ∉ bytes) :
      SpoilsField bound bytes (.tooLong bound)
  | noText {front : List UInt8} (clean : 0 ∉ front) (fits : front.length ≤ bound)
      (bad : NoText front) : SpoilsField bound (front ++ [0]) .invalidUtf8

/-- With the last of these bytes it shows that no request begins with them, and what is wrong. -/
inductive Spoils : List UInt8 → Flaw → Prop where
  | version {front : List UInt8} {flaw : Flaw}
      (spoils : SpoilsField Limits.headerBytes front flaw) : Spoils front flaw
  | unsupported {version : String} (holds : Holds Limits.headerBytes version)
      (first : version ≠ "1") (second : version ≠ "2") :
      Spoils (field version) (.unsupportedVersion version)
  | name {front : List UInt8} {flaw : Flaw} (spoils : SpoilsField Limits.nameBytes front flaw) :
      Spoils (field "1" ++ front) flaw
  | argument {name : String} {args : List String} {front : List UInt8} {flaw : Flaw}
      (named : Holds Limits.nameBytes name)
      (given : ∀ arg ∈ args, Holds Limits.argumentBytes arg)
      (few : args.length < Limits.arguments)
      (spoils : SpoilsField Limits.argumentBytes front flaw) :
      Spoils (field "1" ++ (field name ++ (args.flatMap field ++ front))) flaw
  | size {front : List UInt8} {flaw : Flaw} (spoils : SpoilsField Limits.headerBytes front flaw) :
      Spoils (field "2" ++ front) flaw
  | badSize {size : String} (holds : Holds Limits.headerBytes size)
      (bad : ∀ length, ¬ States size length) :
      Spoils (field "2" ++ field size) (.invalidSize size)
  | body {size : String} {body : List UInt8} {flaw : Flaw} (stated : States size body.length)
      (bad : NoBody body flaw) : Spoils (field "2" ++ (field size ++ body)) flaw

/-- With the last of these bytes, and not before, it is settled what is read of a request. -/
inductive Settles : List UInt8 → Except Flaw Request → Prop where
  | spelt {front : List UInt8} {r : Request} (spells : Spells front r) : Settles front (.ok r)
  | spoilt {front : List UInt8} {flaw : Flaw} (spoils : Spoils front flaw) :
      Settles front (.error flaw)

/-! ### What is settled is answered -/

/-- A byte more than a field may have, and the field is not read on. -/
theorem decides_takeField_of_long (long : bytes.length = room + 1) (clean : 0 ∉ bytes) :
    Reader.Decides (takeField bound room) bytes (.error (.tooLong bound)) := by
  induction bytes generalizing room with
  | nil => cases long
  | cons b bytes ih =>
      have other : b ≠ 0 := fun same => clean (same ▸ List.mem_cons_self)
      cases room with
      | zero =>
          obtain rfl := List.eq_nil_of_length_eq_zero (Nat.succ.inj long)
          rw [takeField_zero, ← List.append_nil [b]]
          refine (Reader.decides_next b).andThen_ok ?_
          rw [goOn, if_neg other]
          exact (Reader.decides_answer _).andThen_error
      | succ room =>
          rw [takeField_succ, ← List.singleton_append]
          refine (Reader.decides_next b).andThen_ok ?_
          rw [goOn, if_neg other]
          exact (ih (Nat.succ.inj long)
            fun member => clean (List.mem_cons_of_mem b member)).andThen_error

/-- A field is read with its NUL. -/
theorem decides_field (holds : Holds bound text) :
    Reader.Decides (readField bound) (field text) (.ok text) := by
  rintro s ⟨rest, whole⟩
  obtain ⟨t, read, passes⟩ := readField_of_arriving holds.clean holds.fits whole.symm
  exact ⟨t, read, passes, ending_of_readField read⟩

theorem decides_of_spoilsField (spoils : SpoilsField bound front flaw) :
    Reader.Decides (readField bound) front (.error flaw) := by
  rw [readField_eq]
  cases spoils with
  | tooLong long clean => exact (decides_takeField_of_long long clean).andThen_error
  | @noText front clean fits bad =>
      have decides : Reader.Decides (takeField bound bound) (front ++ [0]) (.ok front) := by
        rintro s ⟨rest, whole⟩
        rw [List.append_assoc] at whole
        obtain ⟨t, taken, passes⟩ := takeField_of_arriving clean fits whole.symm
        exact ⟨t, taken, passes, ending_of_takeField taken⟩
      rw [← List.append_nil (front ++ [0])]
      refine decides.andThen_ok ?_
      simp only [decode_of_noText bad]
      exact Reader.decides_answer _

/-- Fields that are in order do not keep one that is not from being noticed. -/
theorem decides_fields_of_spoilsField (all : ∀ text ∈ texts, Holds bound text)
    (few : texts.length < count) (spoils : SpoilsField bound front flaw) :
    Reader.Decides (readFields bound count) (texts.flatMap field ++ front) (.error flaw) := by
  induction texts generalizing count with
  | nil =>
      cases count with
      | zero => cases few
      | succ count =>
          rw [readFields_succ]
          exact (decides_of_spoilsField spoils).andThen_error
  | cons text texts ih =>
      cases count with
      | zero => cases few
      | succ count =>
          rw [readFields_succ, List.flatMap_cons, List.append_assoc]
          refine (decides_field (all text List.mem_cons_self)).andThen_ok ?_
          exact (ih (fun other member => all other (List.mem_cons_of_mem text member))
            (Nat.lt_of_succ_lt_succ few)).andThen_error

/-- A body is looked at once all of it is there. -/
theorem decides_body_of_noBody (bad : NoBody bytes flaw) :
    Reader.Decides (readBody bytes.length) bytes (.error flaw) := by
  have looks : Reader.Decides (readBody bytes.length) (bytes ++ []) (.error flaw) := by
    refine (Reader.decides_exactly bytes).andThen_ok ?_
    rw [splitBody_of_noBody bad]
    exact Reader.decides_answer _
  rwa [List.append_nil] at looks

/-- The version field comes first, and says how to go on. -/
theorem decides_inline (decides : Reader.Decides readInline front outcome) :
    Reader.Decides read (field "1" ++ front) outcome := by
  rw [read_eq]
  exact (decides_field ⟨by decide, by decide⟩).andThen_ok decides

theorem decides_sized (decides : Reader.Decides readSized front outcome) :
    Reader.Decides read (field "2" ++ front) outcome := by
  rw [read_eq]
  exact (decides_field ⟨by decide, by decide⟩).andThen_ok decides

theorem decides_of_spoils (spoils : Spoils front flaw) :
    Reader.Decides read front (.error flaw) := by
  cases spoils with
  | version spoils =>
      rw [read_eq]
      exact (decides_of_spoilsField spoils).andThen_error
  | @unsupported version holds first second =>
      rw [read_eq, ← List.append_nil (field version)]
      refine (decides_field holds).andThen_ok ?_
      rw [if_neg first, if_neg second]
      exact Reader.decides_answer _
  | name spoils =>
      apply decides_inline
      rw [readInline_eq]
      exact (decides_of_spoilsField spoils).andThen_error
  | argument named given few spoils =>
      apply decides_inline
      rw [readInline_eq]
      refine (decides_field named).andThen_ok ?_
      exact (decides_fields_of_spoilsField given few spoils).andThen_error
  | size spoils =>
      apply decides_sized
      rw [readSized_eq]
      exact (decides_of_spoilsField spoils).andThen_error
  | @badSize size holds bad =>
      apply decides_sized
      rw [readSized_eq, ← List.append_nil (field size)]
      refine (decides_field holds).andThen_ok ?_
      rw [bodyLength?_of_not_states holds bad]
      exact Reader.decides_answer _
  | @body size body flaw stated bad =>
      apply decides_sized
      rw [readSized_eq]
      refine (decides_field stated.holds).andThen_ok ?_
      rw [bodyLength?_of_states stated]
      exact decides_body_of_noBody bad

/-- A request is answered with its last byte. -/
theorem decides_of_spells (spells : Spells front r) : Reader.Decides read front (.ok r) := by
  have arrives : (Reader.thenSilence front).arriving = front ++ [] := rfl
  obtain ⟨t, said, passes⟩ := read_of_spells spells arrives
  exact prompt_read.decides said passes

theorem decides_of_settles (settles : Settles front outcome) :
    Reader.Decides read front outcome := by
  cases settles with
  | spelt spells => exact decides_of_spells spells
  | spoilt spoils => exact decides_of_spoils spoils

/-! ### What is not settled is waited for -/

/-- In a field that is no good there is a first byte at which that shows. -/
theorem exists_spoilsField_of_noField (missing : NoField .silent bound bytes (.flaw flaw)) :
    ∃ front rest, bytes = front ++ rest ∧ SpoilsField bound front flaw := by
  cases missing with
  | tooLong enough clean =>
      exact ⟨_, _, (List.take_append_drop (bound + 1) bytes).symm,
        .tooLong (List.length_take_of_le enough) clean⟩
  | @noText front rest clean fits bad =>
      exact ⟨front ++ [0], rest, by rw [List.append_assoc, List.singleton_append],
        .noText clean fits bad⟩

/-- Where something is wrong with bytes, some of them are the first at which it shows. -/
theorem exists_spoils_of_unfit (unfit : Unfit .silent bytes (.flaw flaw)) :
    ∃ front rest, bytes = front ++ rest ∧ Spoils front flaw := by
  cases unfit with
  | version missing =>
      obtain ⟨front, rest, rfl, spoils⟩ := exists_spoilsField_of_noField missing
      exact ⟨front, rest, rfl, .version spoils⟩
  | unsupported holds first second => exact ⟨_, _, rfl, .unsupported holds first second⟩
  | name missing =>
      obtain ⟨front, rest, rfl, spoils⟩ := exists_spoilsField_of_noField missing
      exact ⟨_, rest, (List.append_assoc ..).symm, .name spoils⟩
  | argument named given few missing =>
      obtain ⟨front, rest, rfl, spoils⟩ := exists_spoilsField_of_noField missing
      exact ⟨_, rest, by simp only [List.append_assoc], .argument named given few spoils⟩
  | size missing =>
      obtain ⟨front, rest, rfl, spoils⟩ := exists_spoilsField_of_noField missing
      exact ⟨_, rest, (List.append_assoc ..).symm, .size spoils⟩
  | badSize holds bad => exact ⟨_, _, (List.append_assoc ..).symm, .badSize holds bad⟩
  | @body size body rest _ stated bad =>
      exact ⟨field "2" ++ (field size ++ body), rest, by simp only [List.append_assoc],
        .body stated bad⟩

/-- It is settled by some of the bytes what is read, or they are all taken and more are wanted. -/
theorem settles_or_starves (bytes : List UInt8) :
    (∃ front outcome, front <+: bytes ∧ Settles front outcome) ∨ Reader.Starves read bytes := by
  rcases spells_or_unfit .silent bytes with ⟨front, rest, r, rfl, spells⟩ | ⟨cause, unfit⟩
  · exact .inl ⟨front, .ok r, List.prefix_append _ _, .spelt spells⟩
  · cases cause with
    | flaw flaw =>
        obtain ⟨front, rest, rfl, spoils⟩ := exists_spoils_of_unfit unfit
        exact .inl ⟨front, .error flaw, List.prefix_append _ _, .spoilt spoils⟩
    | silent =>
        -- Nothing is wrong but that no more bytes come, so the reader is still waiting.
        refine .inr ((prompt_read bytes).resolve_left ?_)
        rintro ⟨front, outcome, ahead, decides⟩
        have arrives := Reader.arriving_thenSilence bytes
        rw [← arrives] at ahead unfit
        obtain ⟨t, said⟩ := read_of_unfit (s := Reader.thenSilence bytes) unfit
        exact decides.ne_silent ahead (congrArg Prod.fst said)

/-- The bytes that decide are those that settle it, neither more nor fewer. -/
theorem decides_iff_settles : Reader.Decides read front outcome ↔ Settles front outcome := by
  constructor
  · intro decides
    rcases settles_or_starves front with ⟨front', outcome', ahead, settles⟩ | few
    · obtain ⟨rfl, rfl⟩ := (decides_of_settles settles).unique decides ahead List.prefix_rfl
      exact settles
    · exact absurd few (decides.not_starves List.prefix_rfl)
  · exact decides_of_settles

end Request

/-- It does not matter in which pieces bytes arrive.  A request is answered as soon as the bytes
have arrived that spell it, or that show that there is none; these are taken and no others, and
nothing is waited for.  Bytes that are too few for that are all taken, and then it matters only
what stops the reader.  A reply is waited for up to its end. -/
theorem Reader.reads_regardless_of_delivery :
    (∀ s t, Reader.Alike s t → (Request.read s).1 = (Request.read t).1
        ∧ ∃ count, (Request.read s).2.taken = s.taken + count
          ∧ (Request.read t).2.taken = t.taken + count)
      ∧ (∀ front outcome,
        Reader.Decides Request.read front outcome ↔ Request.Settles front outcome)
      ∧ (∀ bytes, (∃ front outcome, front <+: bytes ∧ Reader.Decides Request.read front outcome)
        ↔ ¬ Reader.Starves Request.read bytes)
      ∧ ∀ s, Reply.Delivered s (Reply.read s).1 :=
  ⟨fun _ _ => Request.prompt_read.eq_of_alike, fun _ _ => Request.decides_iff_settles,
    Request.prompt_read.decided_iff, Reply.delivered_read⟩

/-- A request is read although nothing comes after it. -/
example :
    (Request.read (Reader.thenSilence [49, 0, 97, 0, 0, 0, 0])).1
      = .ok ⟨.v1, "a", ["", "", ""]⟩ := by
  cbv

end AttachService
