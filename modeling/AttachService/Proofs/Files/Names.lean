/-
Module: AttachService.Proofs.Files.Names
Purpose: What the names of attach files are made of, and how they differ from those of drafts.
Trusted boundary: none
Main exports: AttachFile.IsName, AttachFile.isFor_name, AttachFile.IsName.simple,
  AttachFile.IsName.simple_draft, AttachFile.isFor_draft, OwnedFile.draft_injective,
  AttachFile.IsName.ne_draft
-/
import AttachService.Files.AttachFile
import AttachService.Files.OwnedFile
import AttachService.Proofs.Files.Folder
import AttachService.Proofs.Text.Numerals

namespace AttachService

namespace OwnedFile

/-- Different names have different drafts. -/
theorem draft_injective {name other : Name} (same : draft name = draft other) : name = other :=
  List.append_cancel_right same

/-- The draft of a name has the ending that marks a file as unfinished. -/
theorem draft_encode (s : String) :
    draft (Utf8.encode s) = Utf8.encode (s ++ AttachFile.draftEnding) :=
  (Utf8.encode_append s AttachFile.draftEnding).symm

end OwnedFile

namespace AttachFile

/-- The name of an attach file, whoever it is from and for. -/
def IsName (entry : Name) : Prop :=
  ∃ target client attempt, entry = Utf8.encode (name target client attempt)

/-! ### The characters of a name -/

/-- The characters that names of attach files are made of, apart from digits. -/
def letters : List Char := ".attach_pid_".toList

/-- A stem is made of certain letters and of digits. -/
theorem mem_stem {target : UInt32} {c : Char} (member : c ∈ (stem target).toList) :
    c ∈ letters ∨ c.isDigit = true := by
  simp only [stem, String.toList_append, List.mem_append] at member
  rcases member with (first | digits) | last
  · exact .inl (List.mem_append_left ['_'] first)
  · exact .inr (Numeral.isDigit_of_mem_ofNat digits)
  · exact .inl (List.mem_append_right ".attach_pid".toList last)

theorem mem_nonce {client attempt : UInt32} {c : Char}
    (member : c ∈ (nonce client attempt).toList) : c ∈ letters ∨ c.isDigit = true := by
  simp only [nonce, String.toList_append, List.mem_append] at member
  rcases member with (digits | mark) | digits
  · exact .inr (Numeral.isDigit_of_mem_ofNat digits)
  · exact .inl (List.mem_append_right ".attach_pid".toList mark)
  · exact .inr (Numeral.isDigit_of_mem_ofNat digits)

/-- A whole name is made of the same letters and of digits. -/
theorem mem_name {target client attempt : UInt32} {c : Char}
    (member : c ∈ (name target client attempt).toList) : c ∈ letters ∨ c.isDigit = true := by
  rw [name, String.toList_append, List.mem_append] at member
  exact member.elim mem_stem mem_nonce

/-- A name ends in a digit, so not like a draft. -/
theorem isDigit_of_getLast?_name {target client attempt : UInt32} {c : Char}
    (last : (name target client attempt).toList.getLast? = some c) : c.isDigit = true := by
  have nonempty : (Numeral.ofNat attempt.toNat).toList ≠ [] := by
    rw [Numeral.toList_ofNat]
    exact Nat.toDigits_ne_nil
  simp only [name, nonce, String.toList_append, ← List.append_assoc] at last
  rw [List.getLast?_append_of_ne_nil _ nonempty] at last
  exact Numeral.isDigit_of_mem_ofNat (List.mem_of_getLast? last)

/-- No name of an attach file ends like the name of a draft. -/
theorem not_isSuffix_name (target client attempt : UInt32) :
    ¬ draftEnding.toList <:+ (name target client attempt).toList := by
  rintro ⟨front, whole⟩
  have last : (name target client attempt).toList.getLast? = some 'p' := by
    rw [← whole]
    exact List.getLast?_append_of_ne_nil front (by decide)
  cases isDigit_of_getLast?_name last

/-! ### Telling finished files and drafts -/

/-- A file is meant for a process by the front of its name, unless it is a draft. -/
theorem isFor_encode (target : UInt32) (s : String) :
    isFor target (Utf8.encode s) = true
      ↔ (stem target).toList <+: s.toList ∧ ¬ draftEnding.toList <:+ s.toList := by
  rw [isFor, Utf8.decode_encode]
  simp only [Bool.and_eq_true, List.isPrefixOf_iff_prefix, Bool.not_eq_true',
    ← Bool.not_eq_true, List.isSuffixOf_iff_suffix]

/-- A finished file is found by the process that it is for. -/
theorem isFor_name (target client attempt : UInt32) :
    isFor target (Utf8.encode (name target client attempt)) = true := by
  refine (isFor_encode _ _).2 ⟨?_, not_isSuffix_name target client attempt⟩
  rw [name, String.toList_append]
  exact List.prefix_append _ _

/-- Nobody takes a draft for a finished file. -/
theorem isFor_draft {entry : Name} (named : IsName entry) (target : UInt32) :
    isFor target (OwnedFile.draft entry) = false := by
  obtain ⟨other, client, attempt, rfl⟩ := named
  rw [OwnedFile.draft_encode, ← Bool.not_eq_true, isFor_encode, String.toList_append]
  exact fun found => found.2 (List.suffix_append _ _)

/-! ### Names as paths -/

/-- Numbers of 32 bits have ten digits at most. -/
theorem utf8ByteSize_numeral (n : UInt32) : (Numeral.ofNat n.toNat).utf8ByteSize ≤ 10 := by
  rw [Numeral.utf8ByteSize_ofNat, Nat.length_toDigits_le_iff (by decide) (by decide)]
  exact Nat.lt_trans n.toNat_lt (by decide)

/-- A name is longer than those of the folder itself and the one above, and not too long for a
file. -/
theorem utf8ByteSize_name (target client attempt : UInt32) :
    2 < (name target client attempt).utf8ByteSize
      ∧ (name target client attempt).utf8ByteSize ≤ 43 := by
  have first : (".attach_pid" : String).utf8ByteSize = 11 := by decide
  have mark : ("_" : String).utf8ByteSize = 1 := by decide
  have ofTarget := utf8ByteSize_numeral target
  have ofClient := utf8ByteSize_numeral client
  have ofAttempt := utf8ByteSize_numeral attempt
  simp only [name, stem, nonce, String.utf8ByteSize_append, first, mark]
  omega

/-- A text of letters and digits is a path of one component. -/
theorem simple_of_chars {s : String}
    (chars : ∀ c ∈ s.toList, (c ∈ letters ∨ c.isDigit = true) ∨ c ∈ draftEnding.toList)
    (long : 2 < s.utf8ByteSize) (short : s.utf8ByteSize ≤ Path.nameBytes) :
    Path.Simple (Utf8.encode s) := by
  have absent : ∀ c, c ∉ letters → c.isDigit = false → c ∉ draftEnding.toList → c ∉ s.toList := by
    intro c noLetter noDigit noEnding member
    rcases chars c member with (letter | digit) | ending
    · exact noLetter letter
    · exact Bool.false_ne_true (noDigit.symm.trans digit)
    · exact noEnding ending
  have length := Utf8.length_encode s
  have notShort : ∀ other : Name, other.length ≤ 2 → Utf8.encode s ≠ other := by
    rintro other few rfl
    omega
  exact {
    nonempty := notShort [] (by decide)
    noNul := fun zero =>
      absent '\x00' (by decide) (by decide) (by decide) (Utf8.zero_mem_encode_iff.1 zero)
    noSlash := fun slash =>
      absent '/' (by decide) (by decide) (by decide) ((Utf8.mem_encode_iff (by decide)).1 slash)
    short := by omega
    notHere := notShort Path.here (by decide)
    notAbove := notShort Path.above (by decide) }

namespace IsName

variable {entry other : Name}

/-- The name of an attach file is a simple one. -/
theorem simple (named : IsName entry) : Path.Simple entry := by
  obtain ⟨target, client, attempt, rfl⟩ := named
  obtain ⟨long, short⟩ := utf8ByteSize_name target client attempt
  exact simple_of_chars (fun c member => .inl (mem_name member)) long
    (Nat.le_trans short (by decide))

/-- The name of its draft is a simple one as well. -/
theorem simple_draft (named : IsName entry) : Path.Simple (OwnedFile.draft entry) := by
  obtain ⟨target, client, attempt, rfl⟩ := named
  obtain ⟨long, short⟩ := utf8ByteSize_name target client attempt
  have size : (name target client attempt ++ draftEnding).utf8ByteSize
      = (name target client attempt).utf8ByteSize + 4 := by
    rw [String.utf8ByteSize_append]
    rfl
  rw [OwnedFile.draft_encode]
  refine simple_of_chars (fun c member => ?_) (by omega)
    (Nat.le_trans (by omega : _ ≤ 47) (by decide))
  rw [String.toList_append, List.mem_append] at member
  exact member.imp_left mem_name

/-- No draft has the name of an attach file. -/
theorem ne_draft (named : IsName entry) (another : IsName other) :
    entry ≠ OwnedFile.draft other := by
  intro same
  obtain ⟨target, client, attempt, rfl⟩ := named
  have finished := isFor_name target client attempt
  rw [same, isFor_draft another] at finished
  cases finished

end IsName

end AttachFile

end AttachService
