/-
Module: AttachService.Settings.Document
Purpose: Reading the TOML documents that settings are written in: keys with integers and texts.
Trusted boundary: none
Main exports: Scalar, Document.entries?
-/

namespace AttachService

/-!
A settings document has one entry `key = value` a line, with blanks and a comment where
TOML allows them.  A value is an integer or a text, in any of TOML's notations for them.
Documents with tables, arrays or other values are refused as a whole, since no setting is
made of these.

A carriage return before a newline belongs to the newline.  They are put together first;
a carriage return that remains is legal nowhere.
-/

/-- A value of a settings document. -/
inductive Scalar where
  | integer (n : Int)
  | text (s : String)
deriving Repr, Inhabited, DecidableEq

namespace Document

/-- Put each carriage return and the newline after it together. -/
def joinNewlines : List Char → List Char
  | '\r' :: '\n' :: rest => '\n' :: joinNewlines rest
  | c :: rest => c :: joinNewlines rest
  | [] => []

/-! ### Characters -/

/-- What may stand around keys and values. -/
def isBlank (c : Char) : Bool := c == ' ' || c == '\t'

/-- What may stand in comments and, some quoting aside, in texts. -/
def isPlain (c : Char) : Bool := c == '\t' || (0x20 ≤ c.toNat && c.toNat != 0x7F)

/-- What a key without quotes is made of. -/
def isBareKey (c : Char) : Bool := c.isAlphanum || c == '_' || c == '-'

/-- The value of a digit, below sixteen. -/
def digit? (c : Char) : Option Nat :=
  if '0' ≤ c ∧ c ≤ '9' then some (c.toNat - '0'.toNat)
  else if 'a' ≤ c ∧ c ≤ 'f' then some (c.toNat - 'a'.toNat + 10)
  else if 'A' ≤ c ∧ c ≤ 'F' then some (c.toNat - 'A'.toNat + 10)
  else none

/-- The value of a digit of this base. -/
def digitOf? (base : Nat) (c : Char) : Option Nat := (digit? c).filter (· < base)

/-! ### Escapes -/

/-- The character that one letter after a backslash stands for. -/
def shortEscape? : Char → Option Char
  | 'b' => some '\x08'
  | 't' => some '\t'
  | 'n' => some '\n'
  | 'f' => some '\x0c'
  | 'r' => some '\r'
  | '"' => some '"'
  | '\\' => some '\\'
  | _ => none

/-- The character whose code point these hexadecimal digits are, if there are `count` of them. -/
def codePoint? (count : Nat) (digits : List Char) : Option Char :=
  match digits.mapM digit? with
  | none => none
  | some values =>
      let n := values.foldl (fun n d => 16 * n + d) 0
      if values.length = count ∧ n.isValidChar then some (Char.ofNat n) else none

/-- The character after a backslash, and the rest. -/
def escape? : List Char → Option (Char × List Char)
  | 'u' :: rest => (codePoint? 4 (rest.take 4)).map (·, rest.drop 4)
  | 'U' :: rest => (codePoint? 8 (rest.take 8)).map (·, rest.drop 8)
  | c :: rest => (shortEscape? c).map (·, rest)
  | [] => none

/-- An escape takes at least one character. -/
theorem length_of_escape? {cs rest : List Char} {c : Char} (h : escape? cs = some (c, rest)) :
    rest.length < cs.length := by
  unfold escape? at h
  split at h
  · obtain ⟨_, _, same⟩ := Option.map_eq_some_iff.1 h
    cases same
    simp only [List.length_drop, List.length_cons]
    omega
  · obtain ⟨_, _, same⟩ := Option.map_eq_some_iff.1 h
    cases same
    simp only [List.length_drop, List.length_cons]
    omega
  · obtain ⟨_, _, same⟩ := Option.map_eq_some_iff.1 h
    cases same
    simp
  · cases h

/-! ### Texts

Each reader is given what follows the opening quotes and yields the text and what follows
the closing ones. -/

/-- Put a character in front of a text that was read. -/
def prepend (c : Char) (r : Option (List Char × List Char)) : Option (List Char × List Char) :=
  r.map fun (text, rest) => (c :: text, rest)

/-- After the three quotes that may end a text, up to two more still belong to it. -/
def closing (quote : Char) : List Char → List Char × List Char
  | a :: b :: rest =>
      if a = quote ∧ b = quote then ([a, b], rest)
      else if a = quote then ([a], b :: rest)
      else ([], a :: b :: rest)
  | [a] => if a = quote then ([a], []) else ([], [a])
  | [] => ([], [])

/-- A literal text on one line. -/
def literal? : List Char → Option (List Char × List Char)
  | [] => none
  | '\'' :: rest => some ([], rest)
  | c :: rest => if isPlain c then prepend c (literal? rest) else none

/-- A literal text that may span lines. -/
def longLiteral? : List Char → Option (List Char × List Char)
  | [] => none
  | '\'' :: '\'' :: '\'' :: rest => some (closing '\'' rest)
  | c :: rest =>
      if isPlain c ∨ c = '\n' then prepend c (longLiteral? rest) else none

/-- A text with escapes on one line. -/
def basic? (cs : List Char) : Option (List Char × List Char) :=
  match cs with
  | [] => none
  | '"' :: rest => some ([], rest)
  | '\\' :: rest =>
      match h : escape? rest with
      | some (c, rest') =>
          have := length_of_escape? h
          prepend c (basic? rest')
      | none => none
  | c :: rest => if isPlain c then prepend c (basic? rest) else none
termination_by cs.length
decreasing_by all_goals simp only [List.length_cons]; omega

/-- What follows a backslash that joins two lines: the blanks up to the end of its line, and
all blanks and newlines after that, are left out. -/
def joined? (cs : List Char) : Option (List Char) :=
  match cs.dropWhile isBlank with
  | '\n' :: rest => some (rest.dropWhile fun c => isBlank c || c == '\n')
  | _ => none

theorem length_of_joined? {cs rest : List Char} (h : joined? cs = some rest) :
    rest.length < cs.length := by
  unfold joined? at h
  split at h
  next after same =>
    cases h
    have first := (List.dropWhile_suffix (l := cs) isBlank).length_le
    have second := (List.dropWhile_suffix (l := after) fun c => isBlank c || c == '\n').length_le
    rw [same, List.length_cons] at first
    omega
  next => cases h

/-- A text with escapes that may span lines. -/
def longBasic? (cs : List Char) : Option (List Char × List Char) :=
  match cs with
  | [] => none
  | '"' :: '"' :: '"' :: rest => some (closing '"' rest)
  | '\\' :: rest =>
      match h : joined? rest with
      | some rest' =>
          have := length_of_joined? h
          longBasic? rest'
      | none =>
          match h : escape? rest with
          | some (c, rest') =>
              have := length_of_escape? h
              prepend c (longBasic? rest')
          | none => none
  | c :: rest =>
      if isPlain c ∨ c = '\n' then prepend c (longBasic? rest) else none
termination_by cs.length
decreasing_by all_goals simp only [List.length_cons]; omega

/-- A text over several lines does not begin with the newline after its quotes. -/
def dropNewline : List Char → List Char
  | '\n' :: rest => rest
  | cs => cs

/-- A text in any notation, with its quotes. -/
def text? : List Char → Option (List Char × List Char)
  | '"' :: '"' :: '"' :: rest => longBasic? (dropNewline rest)
  | '\'' :: '\'' :: '\'' :: rest => longLiteral? (dropNewline rest)
  | '"' :: rest => basic? rest
  | '\'' :: rest => literal? rest
  | _ => none

/-! ### Integers -/

/-- All integers of 64 bits are nearer to zero than this. -/
def integerBound : Nat := UInt64.size / 2 + 1

/-- Put one more digit behind a value, if it does not get too large. -/
def push? (base value : Nat) (d : Nat) : Option Nat :=
  some (base * value + d) |>.filter (· < integerBound)

/-- Read digits after those whose value is known.  A single underscore may stand between
two digits. -/
def moreDigits? (base value : Nat) : List Char → Option (Nat × List Char)
  | '_' :: c :: rest =>
      match (digitOf? base c).bind (push? base value) with
      | some value => moreDigits? base value rest
      | none => none
  | ['_'] => none
  | c :: rest =>
      match digitOf? base c with
      | some d =>
          match push? base value d with
          | some value => moreDigits? base value rest
          | none => none
      | none => some (value, c :: rest)
  | [] => some (value, [])

/-- A digit, and more of them. -/
def digits? (base : Nat) : List Char → Option (Nat × List Char)
  | c :: rest =>
      match digitOf? base c with
      | some d => moreDigits? base d rest
      | none => none
  | [] => none

/-- A decimal number.  A zero in front is the whole number. -/
def decimal? : List Char → Option (Nat × List Char)
  | '0' :: rest => some (0, rest)
  | cs => digits? 10 cs

/-- An integer in any notation.  Only a decimal one has a sign. -/
def anyInteger? : List Char → Option (Int × List Char)
  | '0' :: 'x' :: rest => (digits? 16 rest).map fun (n, rest) => (Int.ofNat n, rest)
  | '0' :: 'o' :: rest => (digits? 8 rest).map fun (n, rest) => (Int.ofNat n, rest)
  | '0' :: 'b' :: rest => (digits? 2 rest).map fun (n, rest) => (Int.ofNat n, rest)
  | '+' :: rest => (decimal? rest).map fun (n, rest) => (Int.ofNat n, rest)
  | '-' :: rest => (decimal? rest).map fun (n, rest) => (-Int.ofNat n, rest)
  | cs => (decimal? cs).map fun (n, rest) => (Int.ofNat n, rest)

/-- An integer of 64 bits. -/
def integer? (cs : List Char) : Option (Int × List Char) :=
  (anyInteger? cs).filter fun (n, _) => Int64.minValue.toInt ≤ n ∧ n ≤ Int64.maxValue.toInt

/-! ### Lines -/

/-- A value in front. -/
def scalar? (cs : List Char) : Option (Scalar × List Char) :=
  match cs with
  | '"' :: _ | '\'' :: _ => (text? cs).map fun (s, rest) => (.text (String.ofList s), rest)
  | _ => (integer? cs).map fun (n, rest) => (.integer n, rest)

/-- A key in front.  A quoted one stays on its line. -/
def key? : List Char → Option (String × List Char)
  | '"' :: rest => (basic? rest).map fun (s, rest) => (String.ofList s, rest)
  | '\'' :: rest => (literal? rest).map fun (s, rest) => (String.ofList s, rest)
  | cs =>
      match cs.takeWhile isBareKey with
      | [] => none
      | name => some (String.ofList name, cs.dropWhile isBareKey)

/-- Leave out a comment. -/
def dropComment : List Char → List Char
  | '#' :: rest => rest.dropWhile isPlain
  | cs => cs

/-- What follows the end of a line, before which only blanks and a comment may stand. -/
def lineEnd? (cs : List Char) : Option (List Char) :=
  match dropComment (cs.dropWhile isBlank) with
  | [] => some []
  | '\n' :: rest => some rest
  | _ => none

/-- An entry in front. -/
def entry? (cs : List Char) : Option ((String × Scalar) × List Char) :=
  match key? cs with
  | none => none
  | some (key, rest) =>
      match rest.dropWhile isBlank with
      | '=' :: rest =>
          (scalar? (rest.dropWhile isBlank)).map fun (value, rest) => ((key, value), rest)
      | _ => none

/-- The entries of at most so many lines. -/
def lines? : (count : Nat) → List Char → Option (List (String × Scalar))
  | _, [] => some []
  | 0, _ :: _ => none
  | count + 1, cs@(_ :: _) =>
      match lineEnd? cs with
      | some rest => lines? count rest
      | none =>
          match entry? (cs.dropWhile isBlank) with
          | none => none
          | some (entry, rest) =>
              match lineEnd? rest with
              | none => none
              | some rest => (lines? count rest).map (entry :: ·)

/-- Leave out a byte order mark. -/
def dropMark : List Char → List Char
  | '\ufeff' :: rest => rest
  | cs => cs

/-- The entries of a document, in order, if it is one.  Every line but an empty last one
holds a character, so their number is bounded by the length. -/
def entries? (document : String) : Option (List (String × Scalar)) :=
  let cs := joinNewlines (dropMark document.toList)
  lines? cs.length cs

end Document

end AttachService
