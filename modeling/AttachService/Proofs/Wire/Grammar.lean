/-
Module: AttachService.Proofs.Wire.Grammar
Purpose: Which bytes are a request, what is wrong with all others, and that every byte string is
  one or the other.
Trusted boundary: none
Main exports: verdict_of_total, Request.Spells, Request.NoField, Request.NoBody, Request.Unfit,
  Request.spells_or_unfit
-/
import AttachService.Proofs.Text.Encoding
import AttachService.Proofs.Text.Numerals
import AttachService.Wire.Request

namespace AttachService

/-- Who accepts what is in order and refuses what is not accepts and refuses nothing else, if
everything is one or the other. -/
theorem verdict_of_total {α ε : Type} {said : Except ε α} {good : α → Prop} {bad : ε → Prop}
    (total : (∃ a, good a) ∨ ∃ cause, bad cause) (accepts : ∀ a, good a → said = .ok a)
    (refuses : ∀ cause, bad cause → said = .error cause) :
    (∀ a, said = .ok a ↔ good a) ∧ ∀ cause, said = .error cause ↔ bad cause := by
  constructor
  · intro a
    constructor
    · intro accepted
      rcases total with ⟨other, sound⟩ | ⟨cause, flawed⟩
      · cases accepted.symm.trans (accepts other sound)
        exact sound
      · cases accepted.symm.trans (refuses cause flawed)
    · exact accepts a
  · intro cause
    constructor
    · intro refused
      rcases total with ⟨a, sound⟩ | ⟨other, flawed⟩
      · cases refused.symm.trans (accepts a sound)
      · cases refused.symm.trans (refuses other flawed)
        exact flawed
    · exact refuses cause

namespace Request

/-!
The grammar says nothing about how requests are read.  `Spells` lists the bytes of requests.
`Unfit` goes through a request from its beginning: each of its constructors says that all is in
order up to some point, and what is wrong there.  At that point the rest of the bytes, however
they go on, are not looked at.
-/

open Utf8

/-! ### Requests -/

/-- A field of at most `bound` bytes can hold this text. -/
structure Holds (bound : Nat) (text : String) : Prop where
  clean : 0 ∉ encode text
  fits : text.utf8ByteSize ≤ bound

/-- The size field states that the body has this length: it is an optional plus sign and one or
more digits, at most sixteen bytes in all. -/
structure States (size : String) (length : Nat) : Prop where
  numeral : Numeral.Denotes size length
  short : size.utf8ByteSize ≤ Limits.headerBytes
  positive : 1 ≤ length
  bounded : length ≤ Limits.bodyBytes

/-- These are the bytes of this request, all of them. -/
inductive Spells : List UInt8 → Request → Prop where
  | inline {name : String} {args : List String} (named : Holds Limits.nameBytes name)
      (given : ∀ arg ∈ args, Holds Limits.argumentBytes arg)
      (count : args.length = Limits.arguments) :
      Spells (("1" :: name :: args).flatMap field) ⟨.v1, name, args⟩
  | sized {size name : String} {args : List String}
      (stated : States size ((name :: args).flatMap field).length)
      (named : Holds Limits.nameBytes name) (clean : ∀ arg ∈ args, 0 ∉ encode arg) :
      Spells (field "2" ++ field size ++ (name :: args).flatMap field) ⟨.v2, name, args⟩

/-! ### Everything else -/

/-- These bytes are not the UTF-8 encoding of any text. -/
def NoText (bytes : List UInt8) : Prop := ∀ text, encode text ≠ bytes

/-- Why bytes do not begin with a field of at most `bound` bytes.  `short` is what a reader
meets that wants more bytes than there are. -/
inductive NoField (short : NoRequest) (bound : Nat) : List UInt8 → NoRequest → Prop where
  | tooLong {bytes : List UInt8} (enough : bound < bytes.length)
      (clean : 0 ∉ bytes.take (bound + 1)) :
      NoField short bound bytes (.flaw (.tooLong bound))
  | unended {bytes : List UInt8} (few : bytes.length ≤ bound) (clean : 0 ∉ bytes) :
      NoField short bound bytes short
  | noText {front rest : List UInt8} (clean : 0 ∉ front) (fits : front.length ≤ bound)
      (bad : NoText front) : NoField short bound (front ++ 0 :: rest) (.flaw .invalidUtf8)

/-- The body is made of these parts, each with a NUL after it. -/
structure MadeOf (body : List UInt8) (parts : List (List UInt8)) : Prop where
  whole : body = parts.flatMap (· ++ [0])
  clean : ∀ part ∈ parts, 0 ∉ part

/-- Why a body, complete as it is, holds no command and arguments.  Other than outside of a
body, it matters first whether the name is a text, and then how long it is. -/
inductive NoBody (body : List UInt8) : Flaw → Prop where
  | unended (last : body.getLast? ≠ some 0) : NoBody body .truncated
  | badName {first : List UInt8} {others : List (List UInt8)}
      (made : MadeOf body (first :: others)) (bad : NoText first) : NoBody body .invalidUtf8
  | longName {name : String} {others : List (List UInt8)}
      (made : MadeOf body (encode name :: others))
      (long : Limits.nameBytes < name.utf8ByteSize) : NoBody body (.tooLong Limits.nameBytes)
  | badArgument {name : String} {others : List (List UInt8)} {arg : List UInt8}
      (made : MadeOf body (encode name :: others))
      (fits : name.utf8ByteSize ≤ Limits.nameBytes) (member : arg ∈ others)
      (bad : NoText arg) : NoBody body .invalidUtf8

/-- Why bytes do not begin with a request: what is wrong first. -/
inductive Unfit (short : NoRequest) : List UInt8 → NoRequest → Prop where
  | version {bytes : List UInt8} {cause : NoRequest}
      (missing : NoField short Limits.headerBytes bytes cause) : Unfit short bytes cause
  | unsupported {version : String} {rest : List UInt8}
      (holds : Holds Limits.headerBytes version) (first : version ≠ "1")
      (second : version ≠ "2") :
      Unfit short (field version ++ rest) (.flaw (.unsupportedVersion version))
  | name {rest : List UInt8} {cause : NoRequest}
      (missing : NoField short Limits.nameBytes rest cause) :
      Unfit short (field "1" ++ rest) cause
  | argument {name : String} {args : List String} {rest : List UInt8} {cause : NoRequest}
      (named : Holds Limits.nameBytes name)
      (given : ∀ arg ∈ args, Holds Limits.argumentBytes arg)
      (few : args.length < Limits.arguments)
      (missing : NoField short Limits.argumentBytes rest cause) :
      Unfit short (field "1" ++ (field name ++ (args.flatMap field ++ rest))) cause
  | size {rest : List UInt8} {cause : NoRequest}
      (missing : NoField short Limits.headerBytes rest cause) :
      Unfit short (field "2" ++ rest) cause
  | badSize {size : String} {rest : List UInt8} (holds : Holds Limits.headerBytes size)
      (bad : ∀ length, ¬ States size length) :
      Unfit short (field "2" ++ (field size ++ rest)) (.flaw (.invalidSize size))
  | shortBody {size : String} {length : Nat} {body : List UInt8} (stated : States size length)
      (few : body.length < length) : Unfit short (field "2" ++ (field size ++ body)) short
  | body {size : String} {body rest : List UInt8} {flaw : Flaw}
      (stated : States size body.length) (bad : NoBody body flaw) :
      Unfit short (field "2" ++ (field size ++ (body ++ rest))) (.flaw flaw)

variable {bytes : List UInt8} {size : String} {length : Nat}

/-- A size field is a short text without NULs. -/
theorem States.holds (stated : States size length) : Holds Limits.headerBytes size := by
  refine ⟨?_, stated.short⟩
  rw [zero_mem_encode_iff]
  obtain ⟨digits, spelt, -, digit, -⟩ := stated.numeral
  have noDigit : '\x00' ∉ digits := fun member => by cases digit _ member
  rcases spelt with same | signed
  · rw [same]
    exact noDigit
  · rw [signed, List.mem_cons, not_or]
    exact ⟨by decide, noDigit⟩

/-- A canonical numeral states a length. -/
theorem states_ofNat (positive : 1 ≤ length) (bounded : length ≤ Limits.bodyBytes) :
    States (Numeral.ofNat length) length where
  numeral := Numeral.denotes_ofNat length
  short := by
    rw [Numeral.utf8ByteSize_ofNat, Nat.length_toDigits_le_iff (by decide) (by decide)]
    exact Nat.lt_of_le_of_lt bounded (by decide)
  positive := positive
  bounded := bounded

/-! ### Nothing in between -/

/-- Bytes are those of a text, or are invalid, and not both. -/
theorem text_or_noText (bytes : List UInt8) : (∃ text, encode text = bytes) ∨ NoText bytes := by
  by_cases valid : ∃ text, encode text = bytes
  · exact .inl valid
  · exact .inr fun text same => valid ⟨text, same⟩

/-- Bytes begin with a field, or there is a first reason why they do not. -/
theorem field_or_noField (short : NoRequest) (bound : Nat) (bytes : List UInt8) :
    (∃ text rest, Holds bound text ∧ bytes = field text ++ rest)
      ∨ ∃ cause, NoField short bound bytes cause := by
  by_cases nul : 0 ∈ bytes
  · obtain ⟨front, rest, rfl, clean⟩ := List.eq_append_cons_of_mem nul
    by_cases fits : front.length ≤ bound
    · rcases text_or_noText front with ⟨text, rfl⟩ | bad
      · rw [length_encode] at fits
        refine .inl ⟨text, rest, ⟨clean, fits⟩, ?_⟩
        rw [field, List.append_assoc, List.singleton_append]
      · exact .inr ⟨_, .noText clean fits bad⟩
    · have within : (front ++ 0 :: rest).take (bound + 1) = front.take (bound + 1) :=
        List.take_append_of_le_length (by omega)
      refine .inr ⟨_, .tooLong ?_ ?_⟩
      · rw [List.length_append]
        omega
      · rw [within]
        exact fun member => clean (List.mem_of_mem_take member)
  · by_cases few : bytes.length ≤ bound
    · exact .inr ⟨_, .unended few nul⟩
    · exact .inr ⟨_, .tooLong (by omega) fun member => nul (List.mem_of_mem_take member)⟩

/-- Bytes begin with so many fields, or one of these is the first that is no good. -/
theorem fields_or_noField (short : NoRequest) (bound count : Nat) (bytes : List UInt8) :
    (∃ (texts : List String) (rest : List UInt8), texts.length = count
        ∧ (∀ text ∈ texts, Holds bound text) ∧ bytes = texts.flatMap field ++ rest)
      ∨ ∃ (texts : List String) (rest : List UInt8) (cause : NoRequest), texts.length < count
        ∧ (∀ text ∈ texts, Holds bound text) ∧ bytes = texts.flatMap field ++ rest
        ∧ NoField short bound rest cause := by
  induction count generalizing bytes with
  | zero => exact .inl ⟨[], bytes, rfl, by simp, rfl⟩
  | succ count ih =>
      rcases field_or_noField short bound bytes with ⟨text, later, holds, rfl⟩ | ⟨cause, missing⟩
      · have every {texts : List String} (all : ∀ text ∈ texts, Holds bound text) :
            ∀ other ∈ text :: texts, Holds bound other := by
          rintro other (_ | ⟨_, member⟩)
          · exact holds
          · exact all other member
        rcases ih later with ⟨texts, rest, same, all, rfl⟩ | ⟨texts, rest, cause, few, all, rfl, no⟩
        · refine .inl ⟨text :: texts, rest, by rw [List.length_cons, same], every all, ?_⟩
          rw [List.flatMap_cons, List.append_assoc]
        · refine .inr ⟨text :: texts, rest, cause, Nat.succ_lt_succ few, every all, ?_, no⟩
          rw [List.flatMap_cons, List.append_assoc]
      · exact .inr ⟨[], bytes, cause, Nat.succ_pos count, by simp, rfl, missing⟩

/-- The parts of a body are what stands between its NULs. -/
theorem madeOf_splitOn (front : List UInt8) : MadeOf (front ++ [0]) (front.splitOn 0) where
  whole := by
    have same := @flatMap_splitOn UInt8 UInt8 _ _ 0 (fun b => [b]) 0 rfl front
    simpa using same.symm
  clean := fun _ => not_mem_of_mem_splitOn

theorem texts_or_noText (parts : List (List UInt8)) :
    (∃ texts : List String, texts.map encode = parts) ∨ ∃ part ∈ parts, NoText part := by
  induction parts with
  | nil => exact .inl ⟨[], rfl⟩
  | cons part parts ih =>
      rcases text_or_noText part with ⟨text, rfl⟩ | bad
      · rcases ih with ⟨texts, rfl⟩ | ⟨other, member, bad⟩
        · exact .inl ⟨text :: texts, rfl⟩
        · exact .inr ⟨other, List.mem_cons_of_mem _ member, bad⟩
      · exact .inr ⟨part, List.mem_cons_self, bad⟩

/-- A body holds a command, or there is a reason why it does not. -/
theorem fields_or_noBody (body : List UInt8) :
    (∃ name args, Holds Limits.nameBytes name ∧ (∀ arg ∈ args, 0 ∉ encode arg)
        ∧ body = (name :: args).flatMap field)
      ∨ ∃ flaw, NoBody body flaw := by
  by_cases ended : body.getLast? = some 0
  · obtain ⟨front, rfl⟩ := List.getLast?_eq_some_iff.1 ended
    have made := madeOf_splitOn front
    obtain ⟨first, others, cut⟩ := List.exists_cons_of_ne_nil (List.splitOn_ne_nil 0 front)
    rw [cut] at made
    rcases text_or_noText first with ⟨name, rfl⟩ | bad
    · by_cases fits : name.utf8ByteSize ≤ Limits.nameBytes
      · rcases texts_or_noText others with ⟨args, rfl⟩ | ⟨arg, member, bad⟩
        · refine .inl ⟨name, args, ⟨made.clean _ List.mem_cons_self, fits⟩, ?_, ?_⟩
          · intro arg member
            exact made.clean _ (List.mem_cons_of_mem _ (List.mem_map_of_mem member))
          · rw [made.whole, ← List.map_cons, List.flatMap_map]
            rfl
        · exact .inr ⟨_, .badArgument made fits member bad⟩
      · exact .inr ⟨_, .longName made (Nat.lt_of_not_le fits)⟩
    · exact .inr ⟨_, .badName made bad⟩
  · exact .inr ⟨_, .unended ended⟩

/-- What comes after the version field of a version 1 request is in order, or something is wrong
with it. -/
theorem inline_or_unfit (short : NoRequest) (rest : List UInt8) :
    (∃ front later r, field "1" ++ rest = front ++ later ∧ Spells front r)
      ∨ ∃ cause, Unfit short (field "1" ++ rest) cause := by
  rcases field_or_noField short Limits.nameBytes rest with ⟨name, rest, named, rfl⟩ | ⟨cause, no⟩
  · rcases fields_or_noField short Limits.argumentBytes Limits.arguments rest with
      ⟨args, rest, count, given, rfl⟩ | ⟨args, rest, cause, few, given, rfl, no⟩
    · refine .inl ⟨_, rest, _, ?_, .inline named given count⟩
      simp only [List.flatMap_cons, List.append_assoc]
    · exact .inr ⟨cause, .argument named given few no⟩
  · exact .inr ⟨cause, .name no⟩

/-- What comes after the version field of a version 2 request is in order, or something is wrong
with it. -/
theorem sized_or_unfit (short : NoRequest) (rest : List UInt8) :
    (∃ front later r, field "2" ++ rest = front ++ later ∧ Spells front r)
      ∨ ∃ cause, Unfit short (field "2" ++ rest) cause := by
  rcases field_or_noField short Limits.headerBytes rest with ⟨size, rest, holds, rfl⟩ | ⟨cause, no⟩
  · by_cases stated : ∃ length, States size length
    · obtain ⟨length, stated⟩ := stated
      by_cases few : rest.length < length
      · exact .inr ⟨short, .shortBody stated few⟩
      · obtain ⟨body, later, rfl, rfl⟩ : ∃ body later, rest = body ++ later
            ∧ body.length = length :=
          ⟨rest.take length, rest.drop length, (List.take_append_drop _ _).symm,
            List.length_take_of_le (Nat.le_of_not_lt few)⟩
        rcases fields_or_noBody body with ⟨name, args, named, clean, rfl⟩ | ⟨flaw, bad⟩
        · refine .inl ⟨_, later, _, ?_, .sized stated named clean⟩
          simp only [List.append_assoc]
        · exact .inr ⟨.flaw flaw, .body stated bad⟩
    · exact .inr ⟨_, .badSize holds fun length states => stated ⟨length, states⟩⟩
  · exact .inr ⟨cause, .size no⟩

/-- Every byte string begins with a request, or there is a first thing wrong with it. -/
theorem spells_or_unfit (short : NoRequest) (bytes : List UInt8) :
    (∃ front rest r, bytes = front ++ rest ∧ Spells front r)
      ∨ ∃ cause, Unfit short bytes cause := by
  rcases field_or_noField short Limits.headerBytes bytes with
    ⟨version, rest, holds, rfl⟩ | ⟨cause, no⟩
  · by_cases first : version = "1"
    · rw [first]
      exact inline_or_unfit short rest
    · by_cases second : version = "2"
      · rw [second]
        exact sized_or_unfit short rest
      · exact .inr ⟨_, .unsupported holds first second⟩
  · exact .inr ⟨cause, .version no⟩

end Request

end AttachService
