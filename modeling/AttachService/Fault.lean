/-
Module: AttachService.Fault
Purpose: Failures of the operating system and of channels, as data.
Trusted boundary: none
Main exports: FaultKind, Fault, Fault.writeZero
-/

namespace AttachService

/-- The kinds of failure an input or output operation can meet. -/
inductive FaultKind where
  | notFound
  | permissionDenied
  | connectionRefused
  | connectionReset
  | hostUnreachable
  | networkUnreachable
  | connectionAborted
  | notConnected
  | addressInUse
  | addressNotAvailable
  | networkDown
  | brokenPipe
  | alreadyExists
  | wouldBlock
  | notADirectory
  | isADirectory
  | directoryNotEmpty
  | readOnlyFilesystem
  | filesystemLoop
  | staleNetworkFileHandle
  | invalidInput
  | invalidData
  | timedOut
  | writeZero
  | storageFull
  | notSeekable
  | quotaExceeded
  | fileTooLarge
  | resourceBusy
  | executableFileBusy
  | deadlock
  | crossesDevices
  | tooManyLinks
  | invalidFilename
  | argumentListTooLong
  | interrupted
  | unsupported
  | unexpectedEnd
  | outOfMemory
  | inProgress
  | other
deriving Repr, Inhabited, DecidableEq

/-- A failed operation: its kind, and what it says about itself. -/
structure Fault where
  kind : FaultKind
  text : String
deriving Repr, Inhabited, DecidableEq

namespace Fault

/-- A sink that takes no byte of a non-empty write. -/
def writeZero : Fault := ⟨.writeZero, "write zero"⟩

/-- A failure with nothing to say beyond its kind. -/
def plain (kind : FaultKind) : Fault := ⟨kind, ""⟩

end Fault

end AttachService
