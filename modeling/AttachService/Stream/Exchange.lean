/-
Module: AttachService.Stream.Exchange
Purpose: Channels in memory: clients register names, and each registration can be opened once.
Trusted boundary: none
Main exports: Registration, Exchange, Exchange.listen, Exchange.last?
-/
import AttachService.Stream.Channel

namespace AttachService

/-- What keeps a registered channel from being opened. -/
inductive Obstacle where
  | fault (fault : Fault)
  | panic
deriving Repr, Inhabited, DecidableEq

/-- The client's end of a channel. -/
structure Registration where
  name : String
  /-- What the client sends. -/
  source : Source
  /-- What the client takes, and what it got so far. -/
  sink : Sink
  obstacle : Option Obstacle
  /-- An attempt to open it was made. -/
  used : Bool := false
  opened : Bool := false
  /-- The other end was given back. -/
  released : Bool := false
deriving Repr, Inhabited, DecidableEq

/-- All registrations, numbered in order.  A name stands for the last one made for it. -/
structure Exchange where
  registrations : Array Registration := #[]
deriving Repr, Inhabited, DecidableEq

namespace Exchange

/-- Register a name. -/
def listen (x : Exchange) (name : String) (source : Source) (sink : Sink)
    (obstacle : Option Obstacle) : Exchange :=
  ⟨x.registrations.push { name := name, source := source, sink := sink, obstacle := obstacle }⟩

/-- The number of the registration a name stands for. -/
def number? (x : Exchange) (name : String) : Option Nat :=
  (x.registrations.toList.zipIdx.reverse.find? fun (r, _) => r.name = name).map (·.2)

/-- The registration a name stands for. -/
def last? (x : Exchange) (name : String) : Option Registration :=
  (x.number? name).bind fun i => x.registrations[i]?

/-- Replace a registration. -/
def put (x : Exchange) (i : Nat) (r : Registration) : Exchange :=
  ⟨x.registrations.setIfInBounds i r⟩

/-- The fault of a name that nobody listens on. -/
def noChannel (name : String) : Fault := ⟨.notFound, "no channel " ++ name⟩

/-- Open the channel a name stands for.  Whatever comes of it, the registration is used up. -/
def openChannel (x : Exchange) (name : String) : OpenOutcome × Exchange :=
  match x.number? name, x.last? name with
  | some i, some r =>
      if r.used then (.failed (noChannel name), x)
      else
        match r.obstacle with
        | some (.fault fault) => (.failed fault, x.put i { r with used := true })
        | some .panic => (.panicked, x.put i { r with used := true })
        | none => (.opened ⟨i, r.source, r.sink⟩, x.put i { r with used := true, opened := true })
  | _, _ => (.failed (noChannel name), x)

/-- Let the client see all that was written. -/
def giveBack (x : Exchange) (c : Channel) : Exchange :=
  match x.registrations[c.id]? with
  | some r => x.put c.id { r with source := c.source, sink := c.sink, released := true }
  | none => x

instance : Transport Exchange where
  openChannel x name _ := x.openChannel name
  giveBack := giveBack

end Exchange

end AttachService
