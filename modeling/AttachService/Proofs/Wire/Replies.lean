/-
Module: AttachService.Proofs.Wire.Replies
Purpose: A reply that was written is read back, whatever its code and its output.
Trusted boundary: none
Main exports: Reply.splitLine_append, Reply.States, Reply.resultCode?_eq_some_iff,
  Reply.parse_resultLine_append, Reply.parse_layout, Reply.write_fills, Reply.write_of_accepts,
  Reply.written_of_write, Reply.read_of_layout
-/
import AttachService.Proofs.Stream.Arrivals
import AttachService.Proofs.Stream.Writing
import AttachService.Proofs.Text.Numerals
import AttachService.Proofs.Text.Trimming
import AttachService.Wire.Reply

namespace AttachService

namespace Reply

variable {s : Source} {r : Reply}

/-! ### The result line -/

/-- A line goes on where there is no newline. -/
theorem takeWhile_of_not_mem {line : List Char} (whole : '\n' ∉ line) (rest : List Char) :
    (line ++ rest).takeWhile (· ≠ '\n') = line ++ rest.takeWhile (· ≠ '\n') := by
  apply List.takeWhile_append_of_pos
  intro c member
  apply decide_eq_true
  rintro rfl
  exact whole member

/-- A line without a newline in it ends at the first newline. -/
theorem splitLine_append {line : String} (whole : '\n' ∉ line.toList) (output : String) :
    splitLine (line ++ "\n" ++ output) = some (line, output) := by
  have text : (line ++ "\n" ++ output).toList = line.toList ++ '\n' :: output.toList := by
    rw [String.toList_append, String.toList_append, List.append_assoc]
    rfl
  have front := takeWhile_of_not_mem whole ('\n' :: output.toList)
  rw [List.takeWhile_cons_of_neg (by simp), List.append_nil] at front
  simp only [splitLine, text, front, List.drop_left, String.ofList_toList]

/-- Without a newline there is no first line. -/
theorem splitLine_of_not_mem {text : String} (unended : '\n' ∉ text.toList) :
    splitLine text = none := by
  have all := takeWhile_of_not_mem unended []
  rw [List.append_nil, List.takeWhile_nil, List.append_nil] at all
  simp only [splitLine, all, List.drop_length]

/-- There is nothing to trim from a number. -/
theorem solid_ofInt {n : Int} {c : Char} (member : c ∈ (Numeral.ofInt n).toList) :
    Text.isBlank c = false :=
  Text.isBlank_of_expresses (Numeral.expresses_ofInt n) c member

/-- The line states an integer: it is the numeral of one, and blanks around it at most. -/
def States (line : String) (n : Int) : Prop :=
  ∃ core, Text.Padded line.toList core ∧ Numeral.Expresses core n

/-- A result code is a number that 32 bits hold. -/
theorem result?_eq_some_iff {n : Int} {code : Int32} : result? n = some code ↔ n = code.toInt := by
  unfold result?
  constructor
  · intro fits
    split at fits
    · next range =>
        cases fits
        rw [Int32.toInt_ofInt_of_le]
        · exact range.1
        · exact Int.lt_of_le_of_lt range.2 (by decide)
    · cases fits
  · rintro rfl
    rw [if_pos ⟨code.minValue_le_toInt, code.toInt_le⟩, Int32.ofInt_toInt]

theorem natAbs_lt_resultBound (code : Int32) : code.toInt.natAbs < resultBound := by
  have low := code.le_toInt
  have high := code.toInt_lt
  have bound : resultBound = 2147483649 := rfl
  omega

/-- A line states a number with or without blanks around it. -/
theorem integer?_trim_eq_some_iff {bound : Nat} {line : String} {n : Int} :
    Numeral.integer? bound (Text.trim line) = some n ↔ States line n ∧ n.natAbs < bound := by
  rw [Numeral.integer?_eq_some_iff, Text.trim, String.toList_ofList]
  constructor
  · rintro ⟨expresses, below⟩
    exact ⟨⟨_, Text.padded_trimChars line.toList, expresses⟩, below⟩
  · rintro ⟨⟨core, padded, expresses⟩, below⟩
    have solid := Text.Solid.of_not_blank (Text.isBlank_of_expresses expresses)
    rw [Text.trimChars_of_padded solid padded]
    exact ⟨expresses, below⟩

/-- The bound on the digits never refuses what fits a result code. -/
theorem resultCode?_eq_some_iff {line : String} {code : Int32} :
    resultCode? line = some code ↔ States line code.toInt := by
  rw [resultCode?, Option.bind_eq_some_iff]
  constructor
  · rintro ⟨n, read, fits⟩
    rw [result?_eq_some_iff.1 fits] at read
    exact (integer?_trim_eq_some_iff.1 read).1
  · intro states
    exact ⟨_, integer?_trim_eq_some_iff.2 ⟨states, natAbs_lt_resultBound code⟩,
      result?_eq_some_iff.2 rfl⟩

/-- A number is stated by how it is written. -/
theorem states_ofInt (n : Int) : States (Numeral.ofInt n) n := by
  refine ⟨_, ⟨[], [], ?_, ?_, ?_⟩, Numeral.expresses_ofInt n⟩
  · rw [List.append_nil, List.nil_append]
  · nofun
  · nofun

/-- A result code that was written is read again. -/
theorem resultCode?_ofInt (code : Int32) :
    resultCode? (Numeral.ofInt code.toInt) = some code :=
  resultCode?_eq_some_iff.2 (states_ofInt code.toInt)

/-- The first newline of a reply is not in its code. -/
theorem newline_not_mem_ofInt (n : Int) : '\n' ∉ (Numeral.ofInt n).toList := by
  intro member
  cases solid_ofInt member

/-- Behind a whole result line, all bytes are output. -/
theorem parse_resultLine_append (code : Int32) (bytes : List UInt8) :
    parse (Utf8.encode (resultLine code) ++ bytes) =
      match Utf8.decode bytes with
      | some output => .ok ⟨code, output⟩
      | none => .error .invalidUtf8 := by
  rw [parse, Utf8.decode_append]
  cases Utf8.decode bytes with
  | none => rfl
  | some output =>
      rw [Option.map_some, resultLine]
      simp only [splitLine_append (newline_not_mem_ofInt _), resultCode?_ofInt]

/-! ### Whole replies -/

/-- A reply is what its own layout is taken for, newlines in the output included. -/
theorem parse_layout (r : Reply) : parse r.layout = .ok r := by
  rw [layout, parse_resultLine_append, Utf8.decode_encode]

/-- The two messages of a reply go through like one. -/
theorem write_fills (r : Reply) (sink : Sink) :
    ∃ front, sink.Fills r.layout front ∧ r.write sink
      = (if front = r.layout then .ok () else .error (.io (sink.accept front).obstacle),
          sink.accept front) := by
  obtain ⟨line, fills, wrote⟩ := sink.writeAll_fills (Utf8.encode (resultLine r.result))
  obtain ⟨output, later, wroteLater⟩ :=
    (sink.accept line).writeAll_fills (Utf8.encode r.output)
  by_cases whole : line = Utf8.encode (resultLine r.result)
  · subst whole
    rw [if_pos rfl] at wrote
    refine ⟨_, later.append fills.accepted, ?_⟩
    simp only [write, wrote, wroteLater, layout, List.append_cancel_left_eq, Sink.accept_accept]
    by_cases all : output = Utf8.encode r.output
    · simp [all]
    · simp [all]
  · have short : sink.Fills r.layout line := fills.of_short whole
    have missing : line ≠ r.layout := by
      intro all
      have accepts := short.eq_iff.1 all
      exact whole (fills.eq_iff.2 (Sink.accepts_append_iff.1 accepts).1)
    refine ⟨line, short, ?_⟩
    rw [if_neg whole] at wrote
    simp only [write, wrote, if_neg missing]

/-- Where there is room for all of a reply, all of it is written. -/
theorem write_of_accepts {sink : Sink} (accepts : sink.Accepts r.layout) :
    r.write sink = (.ok (), sink.accept r.layout) := by
  obtain ⟨front, fills, wrote⟩ := r.write_fills sink
  have whole : front = r.layout := fills.eq_iff.2 accepts
  subst whole
  rw [if_pos rfl] at wrote
  exact wrote

/-- A reply that was written was written whole. -/
theorem written_of_write {sink after : Sink} (written : r.write sink = (.ok (), after)) :
    after.written = sink.written ++ r.layout := by
  obtain ⟨front, -, wrote⟩ := r.write_fills sink
  rw [written] at wrote
  by_cases whole : front = r.layout
  · rw [if_pos whole, Prod.mk.injEq] at wrote
    rw [wrote.2, Sink.written_accept, whole]
  · rw [if_neg whole] at wrote
    cases wrote

/-- Whoever gets all bytes of a reply, and then the end, has the reply. -/
theorem read_of_layout (arrives : s.arriving = r.layout) (ends : s.ending = .ended) :
    ∃ t, read s = (.ok r, t) := by
  obtain ⟨t, all⟩ := Source.untilEnd_of_ended ends
  rw [arrives] at all
  refine ⟨t, ?_⟩
  simp only [read, all, parse_layout]

end Reply

end AttachService
