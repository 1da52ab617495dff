/-
Module: AttachService.Text.Numeral
Purpose: Decimal numerals: writing them canonically, reading them with leading zeros and a sign.
Trusted boundary: none
Main exports: Numeral.natural?, Numeral.integer?, Numeral.ofNat, Numeral.ofInt
-/

namespace AttachService.Numeral

/-!
A numeral is read from one or more ASCII digits; leading zeros do not matter.  A natural
number may carry a plus sign, an integer either sign.  Nothing else, blanks and separators
included, is part of a numeral.

Whoever reads a numeral knows a bound for its value.  No digit makes a value smaller, so
reading ends at the first one that reaches the bound, however many there are.
-/

/-- The value of an ASCII digit. -/
def digit? (c : Char) : Option Nat :=
  if '0' ≤ c ∧ c ≤ '9' then some (c.toNat - '0'.toNat) else none

/-- Read digits after those whose value is already known. -/
def digitsFrom? (bound value : Nat) : List Char → Option Nat
  | [] => some value
  | c :: rest =>
      match digit? c with
      | some d =>
          if 10 * value + d < bound then digitsFrom? bound (10 * value + d) rest else none
      | none => none

/-- The value of a non-empty run of digits. -/
def digits? (bound : Nat) : List Char → Option Nat
  | [] => none
  | cs => digitsFrom? bound 0 cs

/-- The value of an optional plus sign followed by digits. -/
def natural? (bound : Nat) (s : String) : Option Nat :=
  match s.toList with
  | '+' :: rest => digits? bound rest
  | cs => digits? bound cs

/-- The value of an optional sign followed by digits.  The bound is for the digits. -/
def integer? (bound : Nat) (s : String) : Option Int :=
  match s.toList with
  | '+' :: rest => (digits? bound rest).map Int.ofNat
  | '-' :: rest => (digits? bound rest).map fun n => -Int.ofNat n
  | cs => (digits? bound cs).map Int.ofNat

/-- The canonical decimal numeral of a natural number. -/
def ofNat (n : Nat) : String := String.ofList (Nat.toDigits 10 n)

/-- The canonical decimal numeral of an integer. -/
def ofInt : Int → String
  | .ofNat n => ofNat n
  | .negSucc n => "-" ++ ofNat (n + 1)

end AttachService.Numeral
