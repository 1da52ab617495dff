/-
Module: AttachService.Stream.Sink
Purpose: The writing side of a channel: how much it takes, in which portions, how it fails.
Trusted boundary: none
Main exports: Sink, Sink.Mark, Sink.written, Sink.writeAll, Sink.flush, Sink.close
-/
import AttachService.Fault

namespace AttachService

/-!
A sink takes bytes in portions until it is full.  A message is written portion by portion;
what was taken before a failure stays written.  Flushing and closing count as done even
when they report a fault, and a mark tells after which bytes they were done.
-/

/-- What was done to a sink after it had taken so many bytes. -/
inductive Sink.Mark where
  | flushed (taken : Nat)
  | closed (taken : Nat)
deriving Repr, Inhabited, DecidableEq

/-- What a sink takes and what it has taken. -/
structure Sink where
  /-- How many bytes it still takes, if that is limited. -/
  room : Option Nat := none
  /-- What a write to the full sink fails with, unless it just takes nothing. -/
  whenFull : Option Fault := none
  /-- The most bytes it takes at once, if that is limited. -/
  portion : Option Nat := none
  flushFault : Option Fault := none
  closeFault : Option Fault := none
  /-- The bytes taken, the last one first. -/
  reversed : List UInt8 := []
  flushes : Nat := 0
  closes : Nat := 0
  /-- When it was flushed and closed, the last time first.  Unless something else is said, all
  bytes were there by then, and closing came last. -/
  marks : List Sink.Mark := List.replicate closes (.closed reversed.length)
    ++ List.replicate flushes (.flushed reversed.length)
deriving Repr, Inhabited, DecidableEq

namespace Sink

/-- The bytes taken. -/
def written (s : Sink) : List UInt8 := s.reversed.reverse

/-- The bytes at the front of an offer that are taken at once. -/
def share (s : Sink) (bytes : List UInt8) : List UInt8 :=
  let portion := match s.portion with
    | none => bytes
    | some most => bytes.take most
  match s.room with
  | none => portion
  | some room => portion.take room

/-- Why nothing of an offer is taken. -/
def obstacle (s : Sink) : Fault :=
  match s.room, s.whenFull with
  | some 0, some fault => fault
  | _, _ => .writeZero

/-- Take these bytes. -/
def accept (s : Sink) (bytes : List UInt8) : Sink :=
  { s with
    room := s.room.map (· - bytes.length)
    reversed := bytes.reverse ++ s.reversed }

/-- Offer bytes until all are taken, at most `rounds` times. -/
def offer : (rounds : Nat) → List UInt8 → Sink → Except Fault Unit × Sink
  | _, [], s => (.ok (), s)
  | 0, _ :: _, s => (.error s.obstacle, s)
  | rounds + 1, bytes@(_ :: _), s =>
      match s.share bytes with
      | [] => (.error s.obstacle, s)
      | front@(_ :: _) => offer rounds (bytes.drop front.length) (s.accept front)

/-- Write a whole message.  Every successful offer takes a byte, so its length bounds the
number of offers. -/
def writeAll (bytes : List UInt8) (s : Sink) : Except Fault Unit × Sink :=
  offer bytes.length bytes s

/-- Push what was written to the other end. -/
def flush (s : Sink) : Except Fault Unit × Sink :=
  let done := { s with
    flushes := s.flushes + 1
    marks := .flushed s.reversed.length :: s.marks }
  match s.flushFault with
  | none => (.ok (), done)
  | some fault => (.error fault, done)

/-- End the stream. -/
def close (s : Sink) : Except Fault Unit × Sink :=
  let done := { s with
    closes := s.closes + 1
    marks := .closed s.reversed.length :: s.marks }
  match s.closeFault with
  | none => (.ok (), done)
  | some fault => (.error fault, done)

end Sink

end AttachService
