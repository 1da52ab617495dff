/-
Module: AttachService.Stream.Source
Purpose: The reading side of a channel: what arrives, in which pieces, and how it stops.
Trusted boundary: none
Main exports: Delivery, Source, Source.next, Source.exactly, Source.untilEnd
-/
import AttachService.Fault

namespace AttachService

/-!
A source is the finite list of what it will still deliver, followed by its end.  Bytes
arrive in pieces; a reader sees neither where a piece ends nor that it had to wait for
one.  A fault is met once and is never retried.  Silence lasts forever.

`Source.taken` counts the bytes that have been handed to a reader, whether or not the
read they were part of came to an end.
-/

/-- One thing that happens on the way to the reader. -/
inductive Delivery where
  /-- Bytes that arrive together. -/
  | piece (bytes : List UInt8)
  /-- Nothing is there yet, but something will be. -/
  | pause
  /-- A read fails. -/
  | fault (fault : Fault)
  /-- Nothing will ever arrive again. -/
  | silence
deriving Repr, Inhabited, DecidableEq

/-- What is still to come, and how much has been taken. -/
structure Source where
  deliveries : List Delivery
  taken : Nat := 0
deriving Repr, Inhabited, DecidableEq

/-- Why no more bytes can be had. -/
inductive Stop where
  | ended
  | failed (fault : Fault)
  | silent
deriving Repr, Inhabited, DecidableEq

namespace Source

/-- A source that delivers these bytes at once and ends. -/
def ofBytes (bytes : List UInt8) : Source := { deliveries := [.piece bytes] }

/-- The first byte to arrive, and what comes after it. -/
def firstByte : List Delivery → Except Stop UInt8 × List Delivery
  | [] => (.error .ended, [])
  | .piece [] :: rest => firstByte rest
  | .piece (b :: bs) :: rest => (.ok b, .piece bs :: rest)
  | .pause :: rest => firstByte rest
  | .fault f :: rest => (.error (.failed f), rest)
  | .silence :: rest => (.error .silent, .silence :: rest)

/-- Take one byte. -/
def next (s : Source) : Except Stop UInt8 × Source :=
  match firstByte s.deliveries with
  | (.ok b, rest) => (.ok b, { deliveries := rest, taken := s.taken + 1 })
  | (.error stop, rest) => (.error stop, { s with deliveries := rest })

/-- What gathering a fixed number of bytes came to. -/
structure Gathered where
  /-- The bytes gathered, the last one first. -/
  reversed : List UInt8
  /-- How many are missing, and why, if any. -/
  missing : Option (Nat × Stop)
  rest : List Delivery

/-- Gather `wanted` bytes after those already gathered. -/
def gather : List Delivery → (wanted : Nat) → (reversed : List UInt8) → Gathered
  | deliveries, 0, reversed => ⟨reversed, none, deliveries⟩
  | [], wanted + 1, reversed => ⟨reversed, some (wanted + 1, .ended), []⟩
  | .piece bytes :: rest, wanted + 1, reversed =>
      let front := bytes.take (wanted + 1)
      let missing := wanted + 1 - front.length
      if missing = 0 then
        ⟨front.reverse ++ reversed, none, .piece (bytes.drop (wanted + 1)) :: rest⟩
      else
        gather rest missing (front.reverse ++ reversed)
  | .pause :: rest, wanted + 1, reversed => gather rest (wanted + 1) reversed
  | .fault f :: rest, wanted + 1, reversed => ⟨reversed, some (wanted + 1, .failed f), rest⟩
  | .silence :: rest, wanted + 1, reversed =>
      ⟨reversed, some (wanted + 1, .silent), .silence :: rest⟩

/-- Take exactly `count` bytes.  Bytes taken before a stop are lost. -/
def exactly (count : Nat) (s : Source) : Except Stop (List UInt8) × Source :=
  let got := gather s.deliveries count []
  match got.missing with
  | none => (.ok got.reversed.reverse, { deliveries := got.rest, taken := s.taken + count })
  | some (missing, stop) =>
      (.error stop, { deliveries := got.rest, taken := s.taken + (count - missing) })

/-- Gather all bytes up to the end, the last one first. -/
def gatherAll : List Delivery → (reversed : List UInt8) →
    Except Stop Unit × List UInt8 × List Delivery
  | [], reversed => (.ok (), reversed, [])
  | .piece bytes :: rest, reversed => gatherAll rest (bytes.reverse ++ reversed)
  | .pause :: rest, reversed => gatherAll rest reversed
  | .fault f :: rest, reversed => (.error (.failed f), reversed, rest)
  | .silence :: rest, reversed => (.error .silent, reversed, .silence :: rest)

/-- Take everything up to the end. -/
def untilEnd (s : Source) : Except Stop (List UInt8) × Source :=
  match gatherAll s.deliveries [] with
  | (.ok (), reversed, rest) =>
      (.ok reversed.reverse, { deliveries := rest, taken := s.taken + reversed.length })
  | (.error stop, reversed, rest) =>
      (.error stop, { deliveries := rest, taken := s.taken + reversed.length })

/-- The same source before a reader without patience, for whom waiting at all is too long. -/
def withoutPatience (s : Source) : Source :=
  { s with deliveries := s.deliveries.map fun
      | .pause => .silence
      | delivery => delivery }

end Source

end AttachService
