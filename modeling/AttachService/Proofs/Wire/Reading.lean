/-
Module: AttachService.Proofs.Wire.Reading
Purpose: A request is read exactly when the bytes begin with one, and otherwise the reader says
  what is wrong first.
Trusted boundary: none
Main exports: Request.read_of_spells, Request.read_of_unfit, Request.Verdict,
  Request.read_decides
-/
import AttachService.Proofs.Wire.Messages

namespace AttachService.Request

/-!
Each stage of the reader is shown to do what the grammar says of the bytes it meets; since the
grammar leaves nothing in between, what the reader says is what the grammar says.
-/

open Utf8

variable {s t : Source} {bytes rest : List UInt8} {text : String} {texts : List String}
  {bound room count : Nat} {cause : NoRequest}

/-! ### What comes after a field -/

theorem ending_of_takeField (taken : takeField bound room s = (.ok bytes, t)) :
    t.ending = s.ending := by
  induction room generalizing s bytes with
  | zero =>
      unfold takeField at taken
      split at taken
      · cases taken
      · next first =>
          split at taken
          · cases taken
            exact Source.ending_of_next first
          · cases taken
  | succ room ih =>
      unfold takeField at taken
      split at taken
      · cases taken
      · next first =>
          split at taken
          · cases taken
            exact Source.ending_of_next first
          · simp only at taken
            split at taken
            · next more =>
                cases taken
                rw [ih more, Source.ending_of_next first]
            · cases taken

/-- What stops the stream later is not changed by reading a field. -/
theorem ending_of_readField (read : readField bound s = (.ok text, t)) : t.ending = s.ending := by
  unfold readField at read
  split at read
  · cases read
  · next taken =>
      split at read
      · cases read
        exact ending_of_takeField taken
      · cases read

/-- After a field that was read, the rest is to come, and the same end. -/
theorem readField_of_holds (holds : Holds bound text) (arrives : s.arriving = field text ++ rest) :
    ∃ t, readField bound s = (.ok text, t) ∧ t.arriving = rest ∧ t.ending = s.ending := by
  obtain ⟨t, read, passes⟩ := readField_of_arriving holds.clean holds.fits arrives
  exact ⟨t, read, passes.rest_eq arrives, ending_of_readField read⟩

/-! ### Fields that are missing -/

/-- One byte more than may come, and no NUL among them. -/
theorem takeField_of_long (long : bytes.length = room + 1) (clean : 0 ∉ bytes)
    (arrives : s.arriving = bytes ++ rest) :
    ∃ t, takeField bound room s = (.error (.flaw (.tooLong bound)), t) := by
  induction bytes generalizing room s with
  | nil => cases long
  | cons b bytes ih =>
      obtain ⟨t, first, passes⟩ := Source.next_of_arriving arrives
      have other : b ≠ 0 := fun same => clean (same ▸ List.mem_cons_self)
      cases room with
      | zero =>
          refine ⟨t, ?_⟩
          unfold takeField
          simp only [first, if_neg other]
      | succ room =>
          obtain ⟨u, more⟩ := ih (Nat.succ.inj long)
            (fun member => clean (List.mem_cons_of_mem b member)) (passes.rest_eq arrives)
          refine ⟨u, ?_⟩
          unfold takeField
          simp only [first, if_neg other, more]

/-- No NUL arrives, nor more bytes than may come. -/
theorem takeField_of_unended (few : bytes.length ≤ room) (clean : 0 ∉ bytes)
    (arrives : s.arriving = bytes) :
    ∃ t, takeField bound room s = (.error (ofStop s.ending), t) := by
  induction bytes generalizing room s with
  | nil =>
      obtain ⟨t, first, -⟩ := Source.next_of_arriving_nil arrives
      refine ⟨t, ?_⟩
      unfold takeField
      simp only [first]
  | cons b bytes ih =>
      obtain ⟨t, first, passes⟩ := Source.next_of_arriving arrives
      have other : b ≠ 0 := fun same => clean (same ▸ List.mem_cons_self)
      cases room with
      | zero => cases few
      | succ room =>
          obtain ⟨u, more⟩ := ih (Nat.le_of_succ_le_succ few)
            (fun member => clean (List.mem_cons_of_mem b member)) (passes.rest_eq arrives)
          refine ⟨u, ?_⟩
          unfold takeField
          simp only [first, if_neg other, more, Source.ending_of_next first]

/-- What is no text is not decoded. -/
theorem decode_of_noText (bad : NoText bytes) : decode bytes = none := by
  cases found : decode bytes with
  | none => rfl
  | some text => exact absurd (decode_eq_some_iff.1 found).symm (bad text)

/-- A field is refused for the first reason that there is. -/
theorem readField_of_noField (missing : NoField (ofStop s.ending) bound s.arriving cause) :
    ∃ t, readField bound s = (.error cause, t) := by
  generalize arrives : s.arriving = bytes at missing
  cases missing with
  | tooLong enough clean =>
      have split := List.take_append_drop (bound + 1) bytes
      rw [← split] at arrives
      obtain ⟨t, long⟩ : ∃ t, takeField bound bound s = (.error (.flaw (.tooLong bound)), t) :=
        takeField_of_long (List.length_take_of_le enough) clean arrives
      exact ⟨t, by simp only [readField, long]⟩
  | unended few clean =>
      obtain ⟨t, unended⟩ : ∃ t, takeField bound bound s = (.error (ofStop s.ending), t) :=
        takeField_of_unended few clean arrives
      exact ⟨t, by simp only [readField, unended]⟩
  | noText clean fits bad =>
      obtain ⟨t, taken, -⟩ : ∃ t, takeField bound bound s = (.ok _, t) ∧ _ :=
        takeField_of_arriving clean fits arrives
      exact ⟨t, by simp only [readField, taken, decode_of_noText bad]⟩

/-- The fields before the first one that is missing do not matter. -/
theorem readFields_of_noField (all : ∀ text ∈ texts, Holds bound text)
    (few : texts.length < count) (arrives : s.arriving = texts.flatMap field ++ rest)
    (missing : NoField (ofStop s.ending) bound rest cause) :
    ∃ t, readFields bound count s = (.error cause, t) := by
  induction texts generalizing count s with
  | nil =>
      rw [List.flatMap_nil, List.nil_append] at arrives
      rw [← arrives] at missing
      obtain ⟨t, no⟩ := readField_of_noField missing
      cases count with
      | zero => cases few
      | succ count => exact ⟨t, by simp only [readFields, no]⟩
  | cons text texts ih =>
      rw [List.flatMap_cons, List.append_assoc] at arrives
      obtain ⟨t, first, beyond, ends⟩ := readField_of_holds (all text List.mem_cons_self) arrives
      cases count with
      | zero => cases few
      | succ count =>
          rw [← ends] at missing
          obtain ⟨u, no⟩ := ih (fun other member => all other (List.mem_cons_of_mem text member))
            (Nat.lt_of_succ_lt_succ few) beyond missing
          exact ⟨u, by simp only [readFields, first, no]⟩

/-! ### Bodies that hold no command -/

/-- A body that is made of these parts is cut into them. -/
theorem splitAtNul_of_madeOf {body : List UInt8} {parts : List (List UInt8)}
    (made : MadeOf body parts) (nonempty : parts ≠ []) :
    body.getLast? = some 0 ∧ splitAtNul body.dropLast = parts := by
  have joined : body = [0].intercalate parts ++ [0] := by
    rw [made.whole]
    exact flatMap_ended_eq nonempty
  rw [joined, List.getLast?_concat, List.dropLast_concat, splitAtNul_eq_splitOn]
  exact ⟨rfl, List.splitOn_intercalate 0 made.clean nonempty⟩

/-- One part that is no text is enough to refuse them all. -/
theorem decodeAll_of_noText {parts : List (List UInt8)} (member : bytes ∈ parts)
    (bad : NoText bytes) : decodeAll parts = .error .invalidUtf8 := by
  have failed : parts.mapM decode = none := by
    induction parts with
    | nil => cases member
    | cons part parts ih =>
        rw [List.mapM_cons]
        rcases List.mem_cons.1 member with rfl | later
        · rw [decode_of_noText bad]
          rfl
        · rw [ih later]
          cases decode part <;> rfl
  rw [decodeAll, failed]

/-- A body is refused for the reason that the grammar gives. -/
theorem splitBody_of_noBody {body : List UInt8} {flaw : Flaw} (bad : NoBody body flaw) :
    splitBody body = .error flaw := by
  cases bad with
  | unended last => rw [splitBody, if_pos last]
  | badName made bad =>
      obtain ⟨last, cut⟩ := splitAtNul_of_madeOf made (List.cons_ne_nil _ _)
      simp only [splitBody, last, cut, decode_of_noText bad, ne_eq, not_true_eq_false, if_false]
  | longName made long =>
      obtain ⟨last, cut⟩ := splitAtNul_of_madeOf made (List.cons_ne_nil _ _)
      rw [← length_encode] at long
      simp only [splitBody, last, cut, decode_encode, if_pos long, ne_eq, not_true_eq_false,
        if_false]
  | badArgument made fits member bad =>
      obtain ⟨last, cut⟩ := splitAtNul_of_madeOf made (List.cons_ne_nil _ _)
      rw [← length_encode] at fits
      simp only [splitBody, last, cut, decode_encode, if_neg (Nat.not_lt.2 fits),
        decodeAll_of_noText member bad, ne_eq, not_true_eq_false, if_false]

/-! ### Whole requests -/

/-- How a request goes on depends on its version field. -/
theorem read_of_version {version : String} (holds : Holds Limits.headerBytes version)
    (arrives : s.arriving = field version ++ rest) :
    ∃ t, t.arriving = rest ∧ t.ending = s.ending ∧ read s =
      if version = "1" then readInline t
      else if version = "2" then readSized t
      else (.error (.flaw (.unsupportedVersion version)), t) := by
  obtain ⟨t, first, beyond, ends⟩ := readField_of_holds holds arrives
  exact ⟨t, beyond, ends, by simp only [read, first]⟩

theorem bodyLength?_of_states {size : String} {length : Nat} (stated : States size length) :
    bodyLength? size = some length :=
  bodyLength?_eq_some_iff.2 ⟨stated.numeral, stated.positive, stated.bounded⟩

/-- Nor is a length made up where none is stated. -/
theorem bodyLength?_of_not_states {size : String} (holds : Holds Limits.headerBytes size)
    (bad : ∀ length, ¬ States size length) : bodyLength? size = none := by
  cases found : bodyLength? size with
  | none => rfl
  | some length =>
      obtain ⟨numeral, positive, bounded⟩ := bodyLength?_eq_some_iff.1 found
      exact absurd ⟨numeral, holds.fits, positive, bounded⟩ (bad length)

/-- A request is read as what its bytes spell, and nothing beyond it is taken. -/
theorem read_of_spells {front : List UInt8} {r : Request} (spells : Spells front r)
    (arrives : s.arriving = front ++ rest) : ∃ t, read s = (.ok r, t) ∧ s.Passes front t := by
  cases spells with
  | @inline name args named given count =>
      rw [List.flatMap_cons, List.append_assoc] at arrives
      obtain ⟨t, one, goes⟩ := read_inline_of_arriving arrives
      have clean : ∀ text ∈ name :: args, 0 ∉ encode text := by
        intro text member
        rcases List.mem_cons.1 member with rfl | later
        · exact named.clean
        · exact (given text later).clean
      obtain ⟨u, got, more⟩ := readInline_of_arriving clean count named.fits
        (fun arg member => (given arg member).fits) (one.rest_eq arrives)
      exact ⟨u, goes.trans got, one.trans more⟩
  | @sized size name args stated named given =>
      rw [List.append_assoc, List.append_assoc] at arrives
      obtain ⟨t, one, goes⟩ := read_sized_of_arriving arrives
      have clean : ∀ text ∈ name :: args, 0 ∉ encode text := by
        intro text member
        rcases List.mem_cons.1 member with rfl | later
        · exact named.clean
        · exact given text later
      obtain ⟨u, got, more⟩ := readSized_of_stated stated clean named.fits (one.rest_eq arrives)
      refine ⟨u, goes.trans got, ?_⟩
      rw [List.append_assoc]
      exact one.trans more

/-- Whatever is wrong first with the bytes is what the reader says. -/
theorem read_of_unfit (unfit : Unfit (ofStop s.ending) s.arriving cause) :
    ∃ t, read s = (.error cause, t) := by
  generalize arrives : s.arriving = bytes at unfit
  cases unfit with
  | version missing =>
      rw [← arrives] at missing
      obtain ⟨t, no⟩ := readField_of_noField missing
      exact ⟨t, by simp only [read, no]⟩
  | unsupported holds first second =>
      obtain ⟨t, -, -, goes⟩ := read_of_version holds arrives
      rw [if_neg first, if_neg second] at goes
      exact ⟨t, goes⟩
  | name missing =>
      obtain ⟨t, rfl, ends, goes⟩ := read_of_version ⟨by decide, by decide⟩ arrives
      rw [← ends] at missing
      obtain ⟨u, no⟩ := readField_of_noField missing
      exact ⟨u, by simp only [goes, if_true, readInline, no]⟩
  | argument named given few missing =>
      obtain ⟨t, beyond, ends, goes⟩ := read_of_version ⟨by decide, by decide⟩ arrives
      obtain ⟨u, first, later, ends'⟩ := readField_of_holds named beyond
      rw [← ends, ← ends'] at missing
      obtain ⟨v, no⟩ := readFields_of_noField given few later missing
      exact ⟨v, by simp only [goes, if_true, readInline, first, no]⟩
  | size missing =>
      obtain ⟨t, rfl, ends, goes⟩ := read_of_version ⟨by decide, by decide⟩ arrives
      rw [← ends] at missing
      obtain ⟨u, no⟩ := readField_of_noField missing
      exact ⟨u, by simp [goes, readSized, no]⟩
  | @badSize size rest holds bad =>
      obtain ⟨t, beyond, -, goes⟩ := read_of_version ⟨by decide, by decide⟩ arrives
      obtain ⟨u, first, -, -⟩ := readField_of_holds holds beyond
      exact ⟨u, by simp [goes, readSized, first, bodyLength?_of_not_states holds bad]⟩
  | shortBody stated few =>
      obtain ⟨t, beyond, ends, goes⟩ := read_of_version ⟨by decide, by decide⟩ arrives
      obtain ⟨u, first, rfl, ends'⟩ := readField_of_holds stated.holds beyond
      obtain ⟨v, short, -⟩ := Source.exactly_of_few few
      exact ⟨v, by simp [goes, readSized, first, bodyLength?_of_states stated, short, ends', ends]⟩
  | body stated bad =>
      obtain ⟨t, beyond, -, goes⟩ := read_of_version ⟨by decide, by decide⟩ arrives
      obtain ⟨u, first, later, -⟩ := readField_of_holds stated.holds beyond
      obtain ⟨v, whole, -⟩ := Source.exactly_of_arriving later
      exact ⟨v, by
        simp [goes, readSized, first, bodyLength?_of_states stated, whole,
          splitBody_of_noBody bad]⟩

/-- What bytes arrive decides what is read, whatever comes of it. -/
theorem read_verdict (s : Source) :
    (∀ r, (read s).1 = .ok r ↔ ∃ front rest, s.arriving = front ++ rest ∧ Spells front r)
      ∧ ∀ cause, (read s).1 = .error cause ↔ Unfit (ofStop s.ending) s.arriving cause := by
  apply verdict_of_total
  · rcases spells_or_unfit (ofStop s.ending) s.arriving with
      ⟨front, rest, r, arrives, spells⟩ | unfit
    · exact .inl ⟨r, front, rest, arrives, spells⟩
    · exact .inr unfit
  · rintro r ⟨front, rest, arrives, spells⟩
    obtain ⟨t, read, -⟩ := read_of_spells spells arrives
    rw [read]
  · intro cause unfit
    obtain ⟨t, read⟩ := read_of_unfit unfit
    rw [read]

/-- A request is read exactly if some of the bytes in front spell it. -/
theorem read_eq_ok_iff {r : Request} :
    (read s).1 = .ok r ↔ ∃ front rest, s.arriving = front ++ rest ∧ Spells front r :=
  (read_verdict s).1 r

/-- A request is refused exactly if the bytes are unfit, and for the reason that makes them
so. -/
theorem read_eq_error_iff :
    (read s).1 = .error cause ↔ Unfit (ofStop s.ending) s.arriving cause :=
  (read_verdict s).2 cause

/-! ### Requests and the end of the file -/

/-- Where the bytes end, a reader has a flaw to report. -/
theorem exists_flaw_of_unfit (unfit : Unfit (.flaw .truncated) bytes cause) :
    ∃ flaw, cause = .flaw flaw := by
  cases unfit with
  | version missing | name missing | argument _ _ _ missing | size missing =>
      cases missing with
      | tooLong | unended | noText => exact ⟨_, rfl⟩
  | unsupported | badSize | shortBody | body => exact ⟨_, rfl⟩

/-- What becomes of a reader that meets these bytes, and after them the end of the file. -/
structure Verdict (s : Source) (bytes : List UInt8) : Prop where
  accepts : ∀ r, (read s).1 = .ok r ↔ ∃ front, front <+: bytes ∧ Spells front r
  /-- The bytes of the request are taken, and no more. -/
  takes : ∀ front r, front <+: bytes → Spells front r → s.Passes front (read s).2
  refuses : ∀ cause, (read s).1 = .error cause ↔
    ∃ flaw, cause = .flaw flaw ∧ Unfit (.flaw .truncated) bytes (.flaw flaw)

/-- At the end of a stream, what is read of it is what its bytes are. -/
theorem read_decides (arrives : s.arriving = bytes) (ends : s.ending = .ended) :
    Verdict s bytes where
  accepts r := by
    rw [read_eq_ok_iff, arrives]
    constructor
    · rintro ⟨front, rest, whole, spells⟩
      exact ⟨front, ⟨rest, whole.symm⟩, spells⟩
    · rintro ⟨front, ⟨rest, whole⟩, spells⟩
      exact ⟨front, rest, whole.symm, spells⟩
  takes front r ahead spells := by
    obtain ⟨rest, rfl⟩ := ahead
    obtain ⟨t, read, passes⟩ := read_of_spells spells arrives
    rw [read]
    exact passes
  refuses cause := by
    have short : ofStop s.ending = .flaw .truncated := by rw [ends, ofStop]
    rw [read_eq_error_iff, arrives, short]
    constructor
    · intro unfit
      obtain ⟨flaw, rfl⟩ := exists_flaw_of_unfit unfit
      exact ⟨flaw, rfl, unfit⟩
    · rintro ⟨flaw, rfl, unfit⟩
      exact unfit

/-- A request with a size that has a plus sign and a zero in front arrives in pieces. -/
theorem read_decides_in_pieces :
    (⟨[.piece [50, 0, 43], .pause, .piece [48, 50, 0, 120, 0, 7]], 0⟩ : Source).arriving
        = [50, 0, 43, 48, 50, 0, 120, 0, 7]
      ∧ (⟨[.piece [50, 0, 43], .pause, .piece [48, 50, 0, 120, 0, 7]], 0⟩ : Source).ending = .ended
      ∧ Verdict ⟨[.piece [50, 0, 43], .pause, .piece [48, 50, 0, 120, 0, 7]], 0⟩
        [50, 0, 43, 48, 50, 0, 120, 0, 7] :=
  ⟨rfl, rfl, read_decides rfl rfl⟩

end AttachService.Request
