/-
Module: AttachService.Proofs.Text.Numerals
Purpose: What a numeral stands for, and that canonical numerals stand for what was written.
Trusted boundary: none
Main exports: Numeral.Denotes, Numeral.natural?_eq_some_iff, Numeral.isDigit_of_mem_ofNat,
  Numeral.denotes_ofNat, Numeral.Plain, Numeral.plain_iff_eq_ofNat, Numeral.Expresses,
  Numeral.integer?_eq_some_iff, Numeral.expresses_ofInt, Numeral.utf8ByteSize_ofNat
-/
import AttachService.Proofs.Text.Encoding
import AttachService.Text.Numeral

namespace AttachService.Numeral

/-- One or more digits, perhaps after a plus sign, that have this value. -/
def Denotes (s : String) (n : Nat) : Prop :=
  ∃ digits, (s.toList = digits ∨ s.toList = '+' :: digits) ∧ digits ≠ []
    ∧ (∀ c ∈ digits, c.isDigit = true) ∧ Nat.ofDigitChars 10 digits 0 = n

/-! ### Digits -/

theorem isDigit_iff {c : Char} : c.isDigit = true ↔ '0' ≤ c ∧ c ≤ '9' := by
  simp [Char.isDigit, Char.le_def, UInt32.le_iff_toNat_le]

theorem digit?_of_isDigit {c : Char} (digit : c.isDigit = true) :
    digit? c = some (c.toNat - '0'.toNat) := by
  rw [digit?, if_pos (isDigit_iff.1 digit)]

theorem of_digit?_eq_some {c : Char} {d : Nat} (read : digit? c = some d) :
    c.isDigit = true ∧ d = c.toNat - '0'.toNat := by
  unfold digit? at read
  split at read
  · next range =>
      cases read
      exact ⟨isDigit_iff.2 range, rfl⟩
  · cases read

/-- Reading on never makes a value smaller. -/
theorem le_ofDigitChars (cs : List Char) (value : Nat) : value ≤ Nat.ofDigitChars 10 cs value := by
  rw [Nat.ofDigitChars_eq_ofDigitChars_zero]
  have grows : 1 * value ≤ 10 ^ cs.length * value :=
    Nat.mul_le_mul_right value (Nat.one_le_pow _ 10 (by omega))
  omega

/-- Digits are read one after the other as long as their value stays below the bound. -/
theorem digitsFrom?_eq_some {bound value : Nat} {cs : List Char}
    (digits : ∀ c ∈ cs, c.isDigit = true) (small : Nat.ofDigitChars 10 cs value < bound) :
    digitsFrom? bound value cs = some (Nat.ofDigitChars 10 cs value) := by
  induction cs generalizing value with
  | nil => simp [digitsFrom?]
  | cons c rest ih =>
      rw [Nat.ofDigitChars_cons] at small ⊢
      have next := le_ofDigitChars rest (10 * value + (c.toNat - '0'.toNat))
      rw [digitsFrom?, digit?_of_isDigit (digits c List.mem_cons_self)]
      simp only [if_pos (Nat.lt_of_le_of_lt next small)]
      exact ih (fun d member => digits d (List.mem_cons_of_mem c member)) small

/-- What is read so is made of digits, and has that value. -/
theorem of_digitsFrom?_eq_some {bound value n : Nat} {cs : List Char}
    (read : digitsFrom? bound value cs = some n) :
    (∀ c ∈ cs, c.isDigit = true) ∧ Nat.ofDigitChars 10 cs value = n ∧ (cs = [] ∨ n < bound) := by
  induction cs generalizing value with
  | nil =>
      cases read
      exact ⟨by simp, rfl, .inl rfl⟩
  | cons c rest ih =>
      rw [digitsFrom?] at read
      split at read
      · next d found =>
          obtain ⟨digit, rfl⟩ := of_digit?_eq_some found
          split at read
          · next small =>
              obtain ⟨digits, value, last⟩ := ih read
              refine ⟨?_, value, .inr ?_⟩
              · rintro e (_ | ⟨_, member⟩)
                · exact digit
                · exact digits e member
              · rcases last with rfl | below
                · cases read
                  exact small
                · exact below
          · cases read
      · cases read

/-- One or more digits that have this value, zeros in front included. -/
structure Digits (cs : List Char) (n : Nat) : Prop where
  some : cs ≠ []
  all : ∀ c ∈ cs, c.isDigit = true
  value : Nat.ofDigitChars 10 cs 0 = n

/-- Digits are read if there are any, and their value is below the bound. -/
theorem digits?_eq_some_iff {bound n : Nat} {cs : List Char} :
    digits? bound cs = some n ↔ Digits cs n ∧ n < bound := by
  cases cs with
  | nil =>
      constructor
      · nofun
      · rintro ⟨digits, -⟩
        exact absurd rfl digits.some
  | cons c rest =>
      constructor
      · intro read
        obtain ⟨digits, value, last⟩ := of_digitsFrom?_eq_some read
        have some := List.cons_ne_nil c rest
        exact ⟨⟨some, digits, value⟩, last.resolve_left some⟩
      · rintro ⟨⟨-, digits, rfl⟩, below⟩
        exact digitsFrom?_eq_some digits below

/-! ### Natural numbers -/

/-- A plus sign in front of them does not matter. -/
theorem natural?_eq_some_iff {bound n : Nat} {s : String} :
    natural? bound s = some n ↔ Denotes s n ∧ n < bound := by
  unfold natural? Denotes
  split
  · next rest signed =>
      rw [digits?_eq_some_iff, signed]
      constructor
      · rintro ⟨⟨nonempty, digits, value⟩, below⟩
        exact ⟨⟨rest, .inr rfl, nonempty, digits, value⟩, below⟩
      · rintro ⟨⟨cs, rfl | same, nonempty, digits, value⟩, below⟩
        · cases digits '+' List.mem_cons_self
        · cases same
          exact ⟨⟨nonempty, digits, value⟩, below⟩
  · next unsigned =>
      rw [digits?_eq_some_iff]
      constructor
      · rintro ⟨⟨nonempty, digits, value⟩, below⟩
        exact ⟨⟨s.toList, .inl rfl, nonempty, digits, value⟩, below⟩
      · rintro ⟨⟨cs, rfl | signed, nonempty, digits, value⟩, below⟩
        · exact ⟨⟨nonempty, digits, value⟩, below⟩
        · exact absurd signed (unsigned cs)

theorem toList_ofNat (n : Nat) : (ofNat n).toList = Nat.toDigits 10 n := by
  rw [ofNat, String.toList_ofList]

/-- A number is written in digits alone. -/
theorem isDigit_of_mem_ofNat {n : Nat} {c : Char} (member : c ∈ (ofNat n).toList) :
    c.isDigit = true := by
  rw [toList_ofNat] at member
  exact Nat.isDigit_of_mem_toDigits (by omega) (by omega) member

/-- What is written of a number has its value. -/
theorem digits_ofNat (n : Nat) : Digits (ofNat n).toList n where
  some := by
    rw [toList_ofNat]
    exact Nat.toDigits_ne_nil
  all := fun _ => isDigit_of_mem_ofNat
  value := by
    rw [toList_ofNat, Nat.ofDigitChars_ten_toDigits]

/-- What is written of a number denotes it. -/
theorem denotes_ofNat (n : Nat) : Denotes (ofNat n) n := by
  obtain ⟨nonempty, digits, value⟩ := digits_ofNat n
  exact ⟨(ofNat n).toList, .inl rfl, nonempty, digits, value⟩

/-! ### Plain numerals -/

theorem digitChar_of_isDigit {c : Char} (digit : c.isDigit = true) :
    Nat.digitChar (c.toNat - '0'.toNat) = c ∧ c.toNat - '0'.toNat < 10 := by
  obtain ⟨low, high⟩ := isDigit_iff.1 digit
  simp only [Char.le_def, UInt32.le_iff_toNat_le] at low high
  have zero : '0'.toNat = 48 := rfl
  have least : '0'.toNat ≤ c.toNat := low
  have most : c.toNat ≤ '0'.toNat + 9 := high
  have small : c.toNat - '0'.toNat < 10 := by omega
  refine ⟨?_, small⟩
  apply Char.toNat_inj.1
  rw [Nat.toNat_digitChar_of_lt_ten small]
  omega

/-- Digits behind a number that is not zero are written as they were read. -/
theorem toDigits_ofDigitChars {cs : List Char} {value : Nat}
    (digits : ∀ c ∈ cs, c.isDigit = true) (positive : 0 < value) :
    Nat.toDigits 10 (Nat.ofDigitChars 10 cs value) = Nat.toDigits 10 value ++ cs := by
  induction cs generalizing value with
  | nil => rw [Nat.ofDigitChars_nil, List.append_nil]
  | cons c rest ih =>
      obtain ⟨same, small⟩ := digitChar_of_isDigit (digits c List.mem_cons_self)
      have longer := Nat.toDigits_append_toDigits (b := 10) (by omega) positive small
      rw [Nat.toDigits_of_lt_base small, same] at longer
      rw [Nat.ofDigitChars_cons, ih (fun d member => digits d (List.mem_cons_of_mem c member))
        (by omega), ← longer, List.append_assoc, List.singleton_append]

/-- A number is written without a zero in front. -/
theorem head?_toDigits {n : Nat} (positive : 0 < n) :
    (Nat.toDigits 10 n).head? ≠ some '0' := by
  induction n using Nat.base_induction 10 (by omega) with
  | single n small =>
      rw [Nat.toDigits_of_lt_base small, List.head?_cons]
      simpa using Nat.ne_of_gt positive
  | digit front last small more ih =>
      obtain ⟨c, rest, cut⟩ :=
        List.exists_cons_of_ne_nil (Nat.toDigits_ne_nil (n := front) (b := 10))
      rw [cut, List.head?_cons] at ih
      rw [← Nat.toDigits_append_toDigits (by omega) more small, cut, List.cons_append,
        List.head?_cons]
      exact ih more

/-- No plus sign, and no zero in front. -/
def Plain (s : String) : Prop := '+' ∉ s.toList ∧ s.toList.head? ≠ some '0'

/-- A positive number has one plain numeral, and that is the canonical one. -/
theorem plain_iff_eq_ofNat {s : String} {n : Nat} (denotes : Denotes s n) (positive : 0 < n) :
    Plain s ↔ s = ofNat n := by
  constructor
  · rintro ⟨unsigned, noZero⟩
    obtain ⟨digits, same | signed, nonempty, all, value⟩ := denotes
    · obtain ⟨c, rest, rfl⟩ := List.exists_cons_of_ne_nil nonempty
      obtain ⟨digit, small⟩ := digitChar_of_isDigit (all c List.mem_cons_self)
      have first : 0 < c.toNat - '0'.toNat := by
        apply Nat.pos_of_ne_zero
        intro zero
        rw [zero] at digit
        exact noZero (by rw [same, List.head?_cons, ← digit]; rfl)
      rw [Nat.ofDigitChars_cons, Nat.mul_zero, Nat.zero_add] at value
      have written :=
        toDigits_ofDigitChars (fun d member => all d (List.mem_cons_of_mem c member)) first
      rw [value, Nat.toDigits_of_lt_base small, digit, List.singleton_append, ← same] at written
      rw [ofNat, written, String.ofList_toList]
    · exact absurd (signed ▸ List.mem_cons_self) unsigned
  · rintro rfl
    refine ⟨fun signed => ?_, ?_⟩
    · cases isDigit_of_mem_ofNat signed
    · rw [toList_ofNat]
      exact head?_toDigits positive

/-! ### Integers -/

/-- One or more digits, perhaps behind a sign, that have this value. -/
inductive Expresses : List Char → Int → Prop where
  | unsigned {cs : List Char} {n : Nat} (digits : Digits cs n) : Expresses cs n
  | plus {cs : List Char} {n : Nat} (digits : Digits cs n) : Expresses ('+' :: cs) n
  | minus {cs : List Char} {n : Nat} (digits : Digits cs n) : Expresses ('-' :: cs) (-n)

/-- What is read is what is expressed, as far as the bound goes. -/
theorem integer?_eq_some_iff {bound : Nat} {s : String} {n : Int} :
    integer? bound s = some n ↔ Expresses s.toList n ∧ n.natAbs < bound := by
  unfold integer?
  split
  · next rest signed =>
      rw [signed, Option.map_eq_some_iff]
      constructor
      · rintro ⟨value, read, rfl⟩
        obtain ⟨digits, below⟩ := digits?_eq_some_iff.1 read
        exact ⟨.plus digits, below⟩
      · rintro ⟨expresses, below⟩
        cases expresses with
        | unsigned digits => cases digits.all '+' List.mem_cons_self
        | plus digits => exact ⟨_, digits?_eq_some_iff.2 ⟨digits, below⟩, rfl⟩
  · next rest signed =>
      rw [signed, Option.map_eq_some_iff]
      constructor
      · rintro ⟨value, read, rfl⟩
        obtain ⟨digits, below⟩ := digits?_eq_some_iff.1 read
        exact ⟨.minus digits, by rwa [Int.natAbs_neg]⟩
      · rintro ⟨expresses, below⟩
        cases expresses with
        | unsigned digits => cases digits.all '-' List.mem_cons_self
        | minus digits =>
            rw [Int.natAbs_neg] at below
            exact ⟨_, digits?_eq_some_iff.2 ⟨digits, below⟩, rfl⟩
  · next noPlus noMinus =>
      rw [Option.map_eq_some_iff]
      constructor
      · rintro ⟨value, read, rfl⟩
        obtain ⟨digits, below⟩ := digits?_eq_some_iff.1 read
        exact ⟨.unsigned digits, below⟩
      · rintro ⟨expresses, below⟩
        generalize same : s.toList = cs at expresses
        cases expresses with
        | unsigned digits => exact ⟨_, digits?_eq_some_iff.2 ⟨same ▸ digits, below⟩, rfl⟩
        | plus => exact absurd same (noPlus _)
        | minus => exact absurd same (noMinus _)

/-- A negative number is written behind a minus sign. -/
theorem toList_ofInt_negSucc (n : Nat) :
    (ofInt (.negSucc n)).toList = '-' :: (ofNat (n + 1)).toList := by
  rw [ofInt, String.toList_append]
  rfl

/-- A canonical numeral is made of digits, perhaps behind a minus sign. -/
theorem mem_ofInt {n : Int} {c : Char} (member : c ∈ (ofInt n).toList) :
    c = '-' ∨ c.isDigit = true := by
  cases n with
  | ofNat n => exact .inr (isDigit_of_mem_ofNat member)
  | negSucc n =>
      rw [toList_ofInt_negSucc, List.mem_cons] at member
      exact member.imp_right isDigit_of_mem_ofNat

/-- Every integer is expressed by its canonical numeral. -/
theorem expresses_ofInt (n : Int) : Expresses (ofInt n).toList n := by
  cases n with
  | ofNat n => exact .unsigned (digits_ofNat n)
  | negSucc n =>
      rw [toList_ofInt_negSucc]
      exact .minus (digits_ofNat (n + 1))

theorem utf8Size_of_isDigit {c : Char} (digit : c.isDigit = true) : c.utf8Size = 1 := by
  rw [Char.utf8Size_eq_one_iff, UInt32.le_iff_toNat_le]
  simp only [Char.isDigit, Bool.and_eq_true, decide_eq_true_eq, UInt32.le_iff_toNat_le] at digit
  exact Nat.le_trans digit.2 (by decide)

/-- Digits take one byte each. -/
theorem length_flatMap_of_digits {cs : List Char} (digits : ∀ c ∈ cs, c.isDigit = true) :
    (cs.flatMap String.utf8EncodeChar).length = cs.length := by
  induction cs with
  | nil => rfl
  | cons c rest ih =>
      have one := utf8Size_of_isDigit (digits c List.mem_cons_self)
      rw [List.flatMap_cons, List.length_append, String.length_utf8EncodeChar, one,
        ih fun d member => digits d (List.mem_cons_of_mem c member), List.length_cons, Nat.add_comm]

/-- A numeral is as long in bytes as it is in digits. -/
theorem utf8ByteSize_ofNat (n : Nat) : (ofNat n).utf8ByteSize = (Nat.toDigits 10 n).length := by
  rw [← Utf8.length_encode, Utf8.encode_eq_flatMap,
    length_flatMap_of_digits fun _ => isDigit_of_mem_ofNat, toList_ofNat]

end AttachService.Numeral
