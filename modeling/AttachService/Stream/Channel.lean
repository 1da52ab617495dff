/-
Module: AttachService.Stream.Channel
Purpose: Open channels, and the means by which channels are opened by name.
Trusted boundary: none
Main exports: OpenMode, Channel, OpenOutcome, Transport
-/
import AttachService.Stream.Sink
import AttachService.Stream.Source

namespace AttachService

/-- How a channel is opened. -/
inductive OpenMode where
  /-- Only the reply is written. -/
  | writeOnly
  /-- The request is read before the reply is written. -/
  | readWrite
deriving Repr, Inhabited, DecidableEq

/-- The words for an opening mode. -/
def OpenMode.label : OpenMode → String
  | .writeOnly => "write-only"
  | .readWrite => "read-write"

/-- An open channel.  The client's end of it is known to the transport by its number. -/
structure Channel where
  id : Nat
  source : Source
  sink : Sink
deriving Repr, Inhabited, DecidableEq

/-- What an attempt to open a channel comes to. -/
inductive OpenOutcome where
  | opened (channel : Channel)
  | failed (fault : Fault)
  /-- The attempt takes down the thread that makes it. -/
  | panicked
deriving Repr, Inhabited, DecidableEq

/-- A world in which channels are opened by name and given back.  Giving a channel back
lets its client see what was written and that nothing more will be. -/
class Transport (world : Type) where
  openChannel : world → (name : String) → OpenMode → OpenOutcome × world
  giveBack : world → Channel → world

end AttachService
