/-
Module: AttachService.Text.Quoted
Purpose: A text between double quotes, with an escape for all that would not show.
Trusted boundary: none
Main exports: Quoted.encode
-/
import AttachService.Text.Invisible

namespace AttachService.Quoted

/-- A lower-case hexadecimal code point between braces. -/
def codePoint (c : Char) : List Char :=
  '\\' :: 'u' :: '\x7b' :: Nat.toDigits 16 c.toNat ++ ['\x7d']

/-- How one character stands between the quotes.  A single quote stands for itself. -/
def escape (c : Char) : List Char :=
  if c = '\x00' then ['\\', '0']
  else if c = '\t' then ['\\', 't']
  else if c = '\r' then ['\\', 'r']
  else if c = '\n' then ['\\', 'n']
  else if c = '"' then ['\\', '"']
  else if c = '\\' then ['\\', '\\']
  else if Text.isInvisible c then codePoint c
  else [c]

/-- The quoted form of a text. -/
def encode (s : String) : String :=
  String.ofList ('"' :: s.toList.flatMap escape ++ ['"'])

end AttachService.Quoted
