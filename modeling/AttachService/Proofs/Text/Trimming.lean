/-
Module: AttachService.Proofs.Text.Trimming
Purpose: What trimming leaves: the one part of a text that has blanks around it and neither
  begins nor ends with one.
Trusted boundary: none
Main exports: Text.Solid, Text.Padded, Text.trimChars_eq_iff, Text.trim_eq_iff, Text.undent,
  Text.Indented, Text.trim_append_of_solid, Text.isBlank_of_expresses
-/
import AttachService.Proofs.Text.Numerals
import AttachService.Text.Blank
import Mathlib.Data.List.Basic
import Mathlib.Data.List.TakeWhile

namespace AttachService.Text

variable {cs core front : List Char}

/-- Neither the first nor the last character is blank. -/
structure Solid (cs : List Char) : Prop where
  first : ∀ c ∈ cs.head?, isBlank c = false
  last : ∀ c ∈ cs.getLast?, isBlank c = false

/-- Around this core there are blanks at most. -/
def Padded (cs core : List Char) : Prop :=
  ∃ front back, cs = front ++ (core ++ back) ∧ (∀ c ∈ front, isBlank c = true)
    ∧ ∀ c ∈ back, isBlank c = true

theorem Solid.reverse (solid : Solid cs) : Solid cs.reverse where
  first := by
    rw [List.head?_reverse]
    exact solid.last
  last := by
    rw [List.getLast?_reverse]
    exact solid.first

/-- Without any blanks there are none at the ends. -/
theorem Solid.of_not_blank (clean : ∀ c ∈ cs, isBlank c = false) : Solid cs where
  first := fun c first => clean c (List.mem_of_mem_head? first)
  last := fun c last => clean c (List.mem_of_mem_getLast? last)

/-! ### One side -/

/-- Dropping stops at the first character that is not blank. -/
theorem dropWhile_append_of_solid (blank : ∀ c ∈ front, isBlank c = true) (solid : Solid core)
    (some : core ≠ []) (back : List Char) :
    (front ++ (core ++ back)).dropWhile isBlank = core ++ back := by
  obtain ⟨c, rest, rfl⟩ := List.exists_cons_of_ne_nil some
  have stops : isBlank c = false := solid.first c rfl
  rw [List.dropWhile_append_of_pos blank, List.cons_append,
    List.dropWhile_cons_of_neg (by simp [stops])]

/-- What is left out in front are blanks. -/
theorem exists_dropWhile (cs : List Char) :
    ∃ front, cs = front ++ cs.dropWhile isBlank ∧ ∀ c ∈ front, isBlank c = true := by
  refine ⟨cs.takeWhile isBlank, List.takeWhile_append_dropWhile.symm, ?_⟩
  intro c member
  exact List.mem_takeWhile_imp member

theorem not_blank_of_mem_head?_dropWhile {c : Char} (first : c ∈ (cs.dropWhile isBlank).head?) :
    isBlank c = false := by
  have stops := List.head?_dropWhile_not isBlank cs
  rw [Option.mem_def.1 first] at stops
  exact stops

/-! ### Both sides -/

/-- A core without blanks at its ends is what trimming leaves. -/
theorem trimChars_of_padded (solid : Solid core) (padded : Padded cs core) :
    trimChars cs = core := by
  obtain ⟨front, back, rfl, ahead, behind⟩ := padded
  by_cases some : core = []
  · subst some
    have blank : ∀ c ∈ front ++ ([] ++ back), isBlank c = true := by
      intro c member
      rw [List.nil_append, List.mem_append] at member
      exact member.elim (ahead c) (behind c)
    rw [trimChars, List.dropWhile_eq_nil_iff.2 blank, List.reverse_nil, List.dropWhile_nil,
      List.reverse_nil]
  · have behind' : ∀ c ∈ back.reverse, isBlank c = true := by
      intro c member
      exact behind c (List.mem_reverse.1 member)
    have backwards : (back.reverse ++ core.reverse).dropWhile isBlank = core.reverse := by
      have rest := dropWhile_append_of_solid behind' solid.reverse (by simpa) []
      simpa using rest
    rw [trimChars, dropWhile_append_of_solid ahead solid some back, List.reverse_append, backwards,
      List.reverse_reverse]

/-- What is trimmed off at the end once the front is gone. -/
theorem exists_trimChars (cs : List Char) :
    ∃ back, cs.dropWhile isBlank = trimChars cs ++ back ∧ ∀ c ∈ back, isBlank c = true := by
  obtain ⟨back, rest, behind⟩ := exists_dropWhile (cs.dropWhile isBlank).reverse
  refine ⟨back.reverse, ?_, fun c member => behind c (List.mem_reverse.1 member)⟩
  rw [trimChars, ← List.reverse_append, ← rest, List.reverse_reverse]

/-- Trimming takes blanks away, and at the ends only. -/
theorem padded_trimChars (cs : List Char) : Padded cs (trimChars cs) := by
  obtain ⟨front, whole, ahead⟩ := exists_dropWhile cs
  obtain ⟨back, rest, behind⟩ := exists_trimChars cs
  rw [rest] at whole
  exact ⟨front, back, whole, ahead, behind⟩

/-- Trimming leaves no blanks at the ends. -/
theorem solid_trimChars (cs : List Char) : Solid (trimChars cs) where
  first := by
    intro c first
    -- What is left begins as it did before its end was trimmed.
    obtain ⟨back, rest, -⟩ := exists_trimChars cs
    have start : c ∈ (cs.dropWhile isBlank).head? := by
      rw [rest, List.head?_append, Option.mem_def.1 first]
      rfl
    exact not_blank_of_mem_head?_dropWhile start
  last := by
    intro c last
    rw [trimChars, List.getLast?_reverse] at last
    exact not_blank_of_mem_head?_dropWhile last

/-- There is one way to trim. -/
theorem trimChars_eq_iff : trimChars cs = core ↔ Solid core ∧ Padded cs core := by
  constructor
  · rintro rfl
    exact ⟨solid_trimChars cs, padded_trimChars cs⟩
  · rintro ⟨solid, padded⟩
    exact trimChars_of_padded solid padded

/-- The trimmed text is the one core that has no blanks at its ends. -/
theorem trim_eq_iff {s t : String} : trim s = t ↔ Solid t.toList ∧ Padded s.toList t.toList := by
  rw [trim, ← trimChars_eq_iff, ← String.toList_inj, String.toList_ofList]

/-! ### The front alone -/

/-- The text without the blanks in front of it. -/
def undent (s : String) : String := String.ofList (s.toList.dropWhile isBlank)

/-- The text begins with a blank. -/
def Indented (s : String) : Prop := ∃ c ∈ s.toList.head?, isBlank c = true

variable {s t : String}

theorem toList_undent (s : String) : (undent s).toList = s.toList.dropWhile isBlank := by
  rw [undent, String.toList_ofList]

/-- Only a text that begins with a blank is different without it. -/
theorem undent_eq_self_iff : undent s = s ↔ ¬ Indented s := by
  rw [← String.toList_inj, toList_undent]
  unfold Indented
  cases s.toList with
  | nil => simp
  | cons c rest =>
      cases blank : isBlank c with
      | false => simp [blank]
      | true =>
          have shorter := List.length_dropWhile_le isBlank rest
          constructor
          · intro same
            have lengths := congrArg List.length same
            rw [List.dropWhile_cons_of_pos blank, List.length_cons] at lengths
            omega
          · intro plain
            exact absurd ⟨c, rfl, blank⟩ plain

/-- With a solid text behind it, what is left of a text is solid on both sides. -/
theorem solid_undent_append (solid : Solid t.toList) (some : t.toList ≠ []) :
    Solid (undent s ++ t).toList := by
  rw [String.toList_append, toList_undent]
  constructor
  · intro c first
    rw [List.head?_append] at first
    cases start : (s.toList.dropWhile isBlank).head? with
    | none =>
        rw [start] at first
        exact solid.first c first
    | some d =>
        rw [start] at first
        cases first
        exact not_blank_of_mem_head?_dropWhile start
  · intro c last
    rw [List.getLast?_append_of_ne_nil _ some] at last
    exact solid.last c last

/-- With something behind it that ends in no blank, a text loses those in front only. -/
theorem trim_append_of_solid (solid : Solid t.toList) (some : t.toList ≠ []) :
    trim (s ++ t) = undent s ++ t := by
  apply trim_eq_iff.2
  constructor
  · exact solid_undent_append solid some
  · obtain ⟨front, whole, ahead⟩ := exists_dropWhile s.toList
    exists front, []
    constructor
    · rw [String.toList_append, String.toList_append, toList_undent, List.append_nil,
        ← List.append_assoc, ← whole]
    · exact ⟨ahead, nofun⟩

/-- A text with blanks in front is not in front of what is left when they are gone. -/
theorem prefix_undent_append_iff (solid : Solid t.toList) (some : t.toList ≠ []) :
    s.toList <+: (undent s ++ t).toList ↔ ¬ Indented s := by
  constructor
  · intro ahead indented
    obtain ⟨c, first, blank⟩ := indented
    obtain ⟨rest, whole⟩ := ahead
    have begins : c ∈ (undent s ++ t).toList.head? := by
      rw [← whole, List.head?_append, Option.mem_def.1 first]
      rfl
    rw [(solid_undent_append solid some).first c begins] at blank
    cases blank
  · intro plain
    rw [undent_eq_self_iff.2 plain, String.toList_append]
    exact List.prefix_append s.toList t.toList

/-! ### Numerals -/

/-- No digit is blank. -/
theorem isBlank_of_isDigit {c : Char} (digit : c.isDigit = true) : isBlank c = false := by
  obtain ⟨low, high⟩ := Numeral.isDigit_iff.1 digit
  rw [Char.le_def, UInt32.le_iff_toNat_le] at low high
  have least : 48 ≤ c.toNat := low
  have most : c.toNat ≤ 57 := high
  simp [isBlank]
  omega

/-- There is no blank in a numeral. -/
theorem isBlank_of_expresses {cs : List Char} {n : Int} (expresses : Numeral.Expresses cs n) :
    ∀ c ∈ cs, isBlank c = false := by
  intro c member
  cases expresses with
  | unsigned digits => exact isBlank_of_isDigit (digits.all c member)
  | plus digits | minus digits =>
      rcases List.mem_cons.1 member with rfl | later
      · decide
      · exact isBlank_of_isDigit (digits.all c later)

end AttachService.Text
