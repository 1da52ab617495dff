/-
Module: AttachService.Proofs.Wire.ReplyGrammar
Purpose: Which bytes are a reply and which reply they are, what is wrong with all others, and that
  the bytes written of a reply are bytes of no other.
Trusted boundary: none
Main exports: Reply.Spells, Reply.Unfit, Reply.spells_or_unfit, Reply.accepts_its_format,
  Reply.layout_injective, Reply.Told, Reply.comes_back
-/
import AttachService.Proofs.Wire.CutShort
import AttachService.Proofs.Wire.Reading

namespace AttachService.Reply

/-!
As with requests, the grammar says nothing about how replies are read.  A reply is a text with a
line in it, and the line states a result.  What is behind the line is output, whatever it is.
The line is read leniently: signs, zeros in front and blanks around the numeral do not matter.
So a reply can be spelt in many ways; it is written in one of them.
-/

open Utf8

variable {s : Source} {r : Reply} {bytes : List UInt8} {flaw : Flaw}

/-! ### The grammar -/

/-- These are bytes of this reply. -/
inductive Spells : List UInt8 → Reply → Prop where
  | stated {line output : String} {code : Int32} (whole : '\n' ∉ line.toList)
      (states : States line code.toInt) :
      Spells (encode (line ++ "\n" ++ output)) ⟨code, output⟩

/-- Why bytes are no reply: what is wrong first. -/
inductive Unfit : List UInt8 → Flaw → Prop where
  | noText {bytes : List UInt8} (bad : Request.NoText bytes) : Unfit bytes .invalidUtf8
  | noLine {text : String} (unended : '\n' ∉ text.toList) :
      Unfit (encode text) (.invalidReply .noResultLine)
  /-- The line states nothing, or what it states lies outside of all result codes. -/
  | badCode {line output : String} (whole : '\n' ∉ line.toList)
      (bad : ∀ n, States line n → n < -2147483648 ∨ 2147483647 < n) :
      Unfit (encode (line ++ "\n" ++ output)) (.invalidReply (.badResultCode line))

/-- A text has a first line, or it has no newline. -/
theorem line_or_unended (text : String) :
    (∃ line output, '\n' ∉ line.toList ∧ text = line ++ "\n" ++ output) ∨ '\n' ∉ text.toList := by
  by_cases ended : '\n' ∈ text.toList
  · left
    obtain ⟨front, rest, cut, clean⟩ := List.eq_append_cons_of_mem ended
    exists String.ofList front, String.ofList rest
    constructor
    · simpa using clean
    · apply String.toList_inj.1
      simp [cut]
  · exact .inr ended

/-- The result codes are the integers in their range. -/
theorem exists_toInt_iff {n : Int} :
    (∃ code : Int32, code.toInt = n) ↔ -2147483648 ≤ n ∧ n ≤ 2147483647 := by
  constructor
  · intro code
    cases code with
    | intro code same =>
        subst same
        exact ⟨code.le_toInt, code.toInt_le⟩
  · intro range
    exists Int32.ofInt n
    exact Int32.toInt_ofInt_of_le range.1 (by omega)

/-- Nothing is in between. -/
theorem spells_or_unfit (bytes : List UInt8) :
    (∃ r, Spells bytes r) ∨ ∃ flaw, Unfit bytes flaw := by
  rcases Request.text_or_noText bytes with ⟨text, rfl⟩ | bad
  · rcases line_or_unended text with ⟨line, output, whole, rfl⟩ | unended
    · by_cases stated : ∃ code : Int32, States line code.toInt
      · obtain ⟨code, states⟩ := stated
        exact .inl ⟨_, .stated whole states⟩
      · have outside : ∀ n, States line n → n < -2147483648 ∨ 2147483647 < n := by
          intro n states
          by_contra inside
          obtain ⟨code, rfl⟩ := exists_toInt_iff.2 (show -2147483648 ≤ n ∧ n ≤ 2147483647 by omega)
          exact stated ⟨code, states⟩
        exact .inr ⟨_, .badCode whole outside⟩
    · exact .inr ⟨_, .noLine unended⟩
  · exact .inr ⟨_, .noText bad⟩

/-! ### Reading -/

/-- Bytes that spell a reply are taken for it. -/
theorem parse_of_spells (spells : Spells bytes r) : parse bytes = .ok r := by
  cases spells with
  | stated whole states =>
      simp only [parse, decode_encode, splitLine_append whole, resultCode?_eq_some_iff.2 states]

/-- Any others are refused, for the first reason that there is. -/
theorem parse_of_unfit (unfit : Unfit bytes flaw) : parse bytes = .error flaw := by
  cases unfit with
  | noText bad => simp only [parse, Request.decode_of_noText bad]
  | noLine unended => simp only [parse, decode_encode, splitLine_of_not_mem unended]
  | @badCode line output whole bad =>
      have unread : resultCode? line = none := by
        apply Option.eq_none_iff_forall_ne_some.2
        intro code read
        have outside := bad _ (resultCode?_eq_some_iff.1 read)
        have inside := exists_toInt_iff.1 ⟨code, rfl⟩
        omega
      simp only [parse, decode_encode, splitLine_append whole, unread]

/-- At the end of the file, what is read is what has arrived. -/
theorem read_eq_parse (arrives : s.arriving = bytes) (ends : s.ending = .ended) :
    (read s).1 = (parse bytes).mapError .flaw := by
  have delivered := delivered_read s
  generalize (read s).1 = answer at delivered ⊢
  cases delivered with
  | ended => rw [arrives]
  | failed stopped | silent stopped =>
      rw [ends] at stopped
      cases stopped

/-- What becomes of a client that meets these bytes, and after them the end of the file. -/
structure Verdict (s : Source) (bytes : List UInt8) : Prop where
  accepts : ∀ r, (read s).1 = .ok r ↔ Spells bytes r
  refuses : ∀ cause, (read s).1 = .error cause ↔ ∃ flaw, cause = .flaw flaw ∧ Unfit bytes flaw
  /-- A line without a result is shown as it stands before its newline, with all its blanks. -/
  shows : ∀ line, (read s).1 = .error (.flaw (.invalidReply (.badResultCode line))) →
    '\n' ∉ line.toList ∧ (∃ output, bytes = encode (line ++ "\n" ++ output))
      ∧ Flaw.message (.invalidReply (.badResultCode line))
        = "invalid reply: bad result code " ++ Quoted.encode line

/-- At the end of a stream, what is read of it as a reply is what its bytes are. -/
theorem accepts_its_format (arrives : s.arriving = bytes) (ends : s.ending = .ended) :
    Verdict s bytes := by
  have said := read_eq_parse arrives ends
  have verdict : (∀ r, (read s).1 = .ok r ↔ Spells bytes r)
      ∧ ∀ cause, (read s).1 = .error cause ↔ ∃ flaw, cause = .flaw flaw ∧ Unfit bytes flaw := by
    apply verdict_of_total
    · cases spells_or_unfit bytes with
      | inl spells => exact .inl spells
      | inr unfit =>
          obtain ⟨flaw, unfit⟩ := unfit
          exact .inr ⟨.flaw flaw, flaw, rfl, unfit⟩
    · intro r spells
      rw [said, parse_of_spells spells]
      rfl
    · intro cause refused
      obtain ⟨flaw, rfl, unfit⟩ := refused
      rw [said, parse_of_unfit unfit]
      rfl
  constructor
  · exact verdict.1
  · exact verdict.2
  · intro line failed
    obtain ⟨flaw, same, unfit⟩ := (verdict.2 _).1 failed
    cases same
    cases unfit with
    | badCode whole => exact ⟨whole, ⟨_, rfl⟩, rfl⟩

/-- A result with a sign, zeros and a blank before it, and a carriage return after it. -/
theorem accepts_its_format_padded :
    (⟨[.piece [32, 43, 48], .pause, .piece [55, 13, 10, 120]], 0⟩ : Source).arriving
        = [32, 43, 48, 55, 13, 10, 120]
      ∧ (⟨[.piece [32, 43, 48], .pause, .piece [55, 13, 10, 120]], 0⟩ : Source).ending = .ended
      ∧ Verdict ⟨[.piece [32, 43, 48], .pause, .piece [55, 13, 10, 120]], 0⟩
        [32, 43, 48, 55, 13, 10, 120] :=
  ⟨rfl, rfl, accepts_its_format rfl rfl⟩

/-! ### Writing and reading -/

/-- Bytes of two replies cannot be the same, since there is one way to read them. -/
theorem layout_injective : Function.Injective layout := by
  intro r other same
  have read := parse_layout r
  rw [same, parse_layout] at read
  cases read
  rfl

/-- A sink without limits is sent any reply. -/
theorem sends_layout (r : Reply) : r.Sends r.layout := by
  have reliable : ({} : Sink).Reliable := by
    constructor
    · rfl
    · nofun
    · rfl
    · rfl
  exists {}, ({} : Sink).accept r.layout
  constructor
  · exact write_of_accepts (reliable.accepts r.layout)
  · exact Sink.written_accept _ _

/-- These bytes stand for this reply, on the way there and on the way back. -/
structure Told (r : Reply) (bytes : List UInt8) : Prop where
  /-- Whoever has room for these bytes is sent them, and nobody is sent any others. -/
  writes : ∀ sink : Sink, sink.Accepts bytes → r.write sink = (.ok (), sink.accept bytes)
  sends : ∀ sent, r.Sends sent ↔ sent = bytes
  reads : ∀ s : Source, s.arriving = bytes → s.ending = .ended → (read s).1 = .ok r
  /-- No other reply is sent as these bytes. -/
  own : ∀ other : Reply, other.Sends bytes → other = r

/-- Each reply has bytes of its own, and they are read back as this reply. -/
theorem comes_back (r : Reply) : ∃ bytes, r.Told bytes := by
  exists r.layout
  constructor
  · intro sink accepts
    exact write_of_accepts accepts
  · intro sent
    constructor
    · intro sends
      exact (layout_of_sends sends).symm
    · intro same
      subst same
      exact sends_layout r
  · intro s arrives ends
    obtain ⟨t, got⟩ := read_of_layout arrives ends
    rw [got]
  · intro other sends
    exact layout_injective (layout_of_sends sends)

end AttachService.Reply
