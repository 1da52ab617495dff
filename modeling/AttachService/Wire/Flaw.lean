/-
Module: AttachService.Wire.Flaw
Purpose: What can be wrong with a request or a reply on a channel, and how it is reported.
Trusted boundary: none
Main exports: Flaw, Flaw.message, ReplyFlaw
-/
import AttachService.Fault
import AttachService.Text.Numeral
import AttachService.Text.Quoted

namespace AttachService

/-- What makes bytes no reply. -/
inductive ReplyFlaw where
  /-- No newline ends a first line. -/
  | noResultLine
  /-- The first line holds no result code. -/
  | badResultCode (line : String)
  /-- A flaw somebody else has put into words. -/
  | stated (words : String)
deriving Repr, Inhabited, DecidableEq

/-- What stops a request or a reply from being read or written. -/
inductive Flaw where
  | io (fault : Fault)
  | unsupportedVersion (field : String)
  | tooLong (bound : Nat)
  | tooManyArguments (bound : Nat)
  | truncated
  | invalidUtf8
  | invalidSize (field : String)
  | invalidReply (flaw : ReplyFlaw)
deriving Repr, Inhabited, DecidableEq

/-- The words for a flaw of a reply. -/
def ReplyFlaw.message : ReplyFlaw → String
  | .noResultLine => "missing result line"
  | .badResultCode line => "bad result code " ++ Quoted.encode line
  | .stated words => words

/-- The words for a flaw. -/
def Flaw.message : Flaw → String
  | .io fault => "channel i/o error: " ++ fault.text
  | .unsupportedVersion field => "unsupported protocol version " ++ Quoted.encode field
  | .tooLong bound => "field exceeds " ++ Numeral.ofNat bound ++ " bytes"
  | .tooManyArguments bound => "more than " ++ Numeral.ofNat bound ++ " arguments"
  | .truncated => "request ended prematurely"
  | .invalidUtf8 => "field is not valid UTF-8"
  | .invalidSize field => "invalid request size " ++ Quoted.encode field
  | .invalidReply flaw => "invalid reply: " ++ flaw.message

end AttachService
