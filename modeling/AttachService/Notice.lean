/-
Module: AttachService.Notice
Purpose: What the service reports to its operator, by cause, with the words for each.
Trusted boundary: none
Main exports: Notice, Notice.severity, Notice.message, Event
-/
import AttachService.Refusal
import AttachService.Stream.Channel
import AttachService.Text.Duration
import AttachService.Version
import AttachService.Wire.Flaw

namespace AttachService

/-- How much a notice matters. -/
inductive Severity where
  | error
  | warning
deriving Repr, Inhabited, DecidableEq

/-- Something that went wrong and that nobody but the operator can be told. -/
inductive Notice where
  /-- A unit of the semaphore came without a pending request. -/
  | emptyQueue
  | notOpened (mode : OpenMode) (channel : String) (fault : Fault)
  | unreadable (channel : String) (flaw : Flaw)
  | unexpectedVersion (channel : String) (version : Version)
  | noRequest (channel : String) (millis : Nat)
  | unsupported (version : UInt32) (name : String)
  | panicked (name : String)
  | replyFailed (name : String) (flaw : Flaw)
  | closeFailed (name : String) (fault : Fault)
  | refused (channel : String) (refusal : Refusal)
  | signalFailed (words : String)
  | consumerPanicked
  | fileUnreadable (path : String) (fault : Fault)
  | fileNotRemoved (path : String) (fault : Fault)
  | fileEmpty (path : String)
deriving Repr, Inhabited, DecidableEq

namespace Notice

/-- Refused requests and unusable attach files are warnings; all else is an error. -/
def severity : Notice → Severity
  | .refused .. | .fileUnreadable .. | .fileNotRemoved .. | .fileEmpty .. => .warning
  | _ => .error

/-- The words for a notice. -/
def message : Notice → String
  | .emptyQueue => "semaphore signaled with an empty queue"
  | .notOpened mode channel fault =>
      "could not open " ++ mode.label ++ " channel " ++ channel ++ ": " ++ fault.text
  | .unreadable channel flaw =>
      "unable to read request from " ++ channel ++ ": " ++ flaw.message
  | .unexpectedVersion channel version =>
      "expected a V2 request from " ++ channel ++ ", got V"
        ++ Numeral.ofNat version.number.toNat
  | .noRequest channel millis =>
      "no request received from " ++ channel ++ " within " ++ Duration.ofMillis millis
  | .unsupported version name =>
      "dequeue, unsupported version: " ++ Numeral.ofNat version.toNat ++ " (" ++ name ++ ")"
  | .panicked name => "operation " ++ name ++ " panicked"
  | .replyFailed name flaw => "unable to write reply of " ++ name ++ ": " ++ flaw.message
  | .closeFailed name fault => "unable to close channel of " ++ name ++ ": " ++ fault.text
  | .refused channel refusal =>
      "attach request on " ++ channel ++ " refused: " ++ refusal.message
  | .signalFailed words => "attach signal error: " ++ words
  | .consumerPanicked => "attach listener thread panicked"
  | .fileUnreadable path fault =>
      "unable to read attach file " ++ path ++ ": " ++ fault.text
  | .fileNotRemoved path fault =>
      "unable to remove attach file " ++ path ++ ": " ++ fault.text
  | .fileEmpty path => "empty attach file " ++ path

end Notice

/-- What can be seen of the service while it works. -/
inductive Event where
  /-- The service set out to open a channel. -/
  | opening (channel : String) (mode : OpenMode)
  | notice (notice : Notice)
deriving Repr, Inhabited, DecidableEq

end AttachService
