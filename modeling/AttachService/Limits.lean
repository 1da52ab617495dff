/-
Module: AttachService.Limits
Purpose: The fixed bounds and codes every part of the attach service agrees on.
Trusted boundary: none
Main exports: Limits.nameBytes, Limits.argumentBytes, Limits.channelBytes, Limits.slots,
  Limits.bodyBytes, Limits.headerBytes
-/

namespace AttachService.Limits

/-!
Lengths are counted in bytes of the UTF-8 text.  A text of exactly the bound is
accepted; one byte more is refused.
-/

/-- Longest command name, in bytes. -/
def nameBytes : Nat := 16

/-- Longest inline argument, in bytes. -/
def argumentBytes : Nat := 1024

/-- Number of arguments a request carries inline. -/
abbrev arguments : Nat := 3

/-- Longest channel name, in bytes. -/
def channelBytes : Nat := 256

/-- Number of request slots, hence of requests that can be pending at once. -/
abbrev slots : Nat := 4

/-- Longest body of a version 2 request on a channel, in bytes. -/
def bodyBytes : Nat := 262144

/-- Longest version field or size field on a channel, in bytes. -/
def headerBytes : Nat := 16

/-- Stack reserved for each short-lived producer thread, in bytes. -/
def producerStackBytes : Nat := 65536

/-- Result code of a command no handler is known for. -/
def unknownCommand : Int32 := -1

/-- Result code of a command whose handler panicked. -/
def panickedCommand : Int32 := -2

end AttachService.Limits
