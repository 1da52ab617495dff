/-
Module: AttachService.Files.Traffic
Purpose: Clients that publish attach files while their target claims them, in any order.
Trusted boundary: creating, writing, reading, renaming, removing and listing are each atomic
Main exports: Drafting, Visitor, SweepEnd, Sweep, Traffic, TrafficMove, Traffic.move, Traffic.run
-/
import AttachService.Files.AttachFile
import AttachService.Files.OwnedFile

namespace AttachService

/-!
`OwnedFile.publish` and `AttachFile.claimAll` carry one party through without a break.  Here
any number of clients and any number of sweeps over the directory are under way at once, and
each can be overtaken between any two of its steps.

A client creates its draft, writes it in pieces of any size, and gives it its name; from then
on it may withdraw the file.  A sweep lists the directory once, in any order, then reads and
removes one entry after the other, and yields a name only if the removal was its own.  While it
goes from one entry to the next the listing may break off, and then it yields nothing at all.

A move whose party is not there or not at that point changes nothing.
-/

/-- How far a client has come with its file. -/
inductive Drafting where
  | idle
  /-- The draft is at this place, and so many bytes are in it. -/
  | writing (place : Place) (count : Nat)
  /-- The file has its name. -/
  | published
  /-- Something failed. -/
  | failed
  /-- The file was given up. -/
  | withdrawn
deriving Repr, Inhabited, DecidableEq

/-- A client with what it wants to publish. -/
structure Visitor where
  name : Name
  contents : List UInt8
  drafting : Drafting := .idle
deriving Repr, Inhabited, DecidableEq

/-- How a sweep has ended. -/
inductive SweepEnd where
  /-- It has looked at all entries, and hands over what it has claimed. -/
  | complete
  /-- The listing broke off, and what was claimed is given up. -/
  | broken
deriving Repr, Inhabited, DecidableEq

/-- A sweep over the directory. -/
structure Sweep where
  /-- The entries that it has not looked at. -/
  ahead : List Name
  /-- The entry that it has read and will remove next. -/
  inHand : Option (Name × String) := none
  /-- The entries that it has removed, with the channel names in them. -/
  yielded : List (Name × String) := []
  ended : Option SweepEnd := none
deriving Repr, Inhabited, DecidableEq

/-- A directory, the process it belongs to, and all that is under way in it. -/
structure Traffic where
  target : UInt32
  workdir : Workdir
  visitors : List Visitor := []
  sweeps : List Sweep := []
deriving Repr, DecidableEq

/-- One step of one party. -/
inductive TrafficMove where
  /-- A client comes with contents for a name. -/
  | visit (name : Name) (contents : List UInt8)
  /-- The client with this number creates its draft. -/
  | create (visitor : Nat)
  /-- The client with this number writes so many more bytes. -/
  | write (visitor count : Nat)
  /-- The client with this number gives its finished draft its name, which may fail. -/
  | publish (visitor : Nat) (mishap : Option Fault)
  /-- The client with this number gives its file up. -/
  | withdraw (visitor : Nat)
  /-- The target lists the directory, in this order, and begins a sweep. -/
  | list (listing : List Name)
  /-- The sweep with this number takes its next step. -/
  | proceed (sweep : Nat)
  /-- The listing of the sweep with this number breaks off. -/
  | breakOff (sweep : Nat)
deriving Repr, Inhabited, DecidableEq

namespace Traffic

/-- Let a client have come so far, leaving this behind. -/
def reach (t : Traffic) (k : Nat) (drafting : Drafting) (workdir : Workdir) : Traffic :=
  { t with
    workdir := workdir
    visitors := t.visitors.modify k fun v => { v with drafting := drafting } }

/-- Let a sweep have come so far, leaving this behind. -/
def carry (t : Traffic) (k : Nat) (sweep : Sweep) (workdir : Workdir) : Traffic :=
  { t with workdir := workdir, sweeps := t.sweeps.set k sweep }

/-- A client creates its draft. -/
def create (t : Traffic) (k : Nat) (v : Visitor) : Traffic :=
  match v.drafting with
  | .idle =>
      match t.workdir.create (OwnedFile.draft v.name) with
      | .ok (place, workdir) => t.reach k (.writing place 0) workdir
      | .error _ => t.reach k .failed t.workdir
  | _ => t

/-- A client writes the next piece. -/
def write (t : Traffic) (k : Nat) (v : Visitor) (count : Nat) : Traffic :=
  match v.drafting with
  | .writing place done =>
      let piece := (v.contents.drop done).take count
      t.reach k (.writing place (done + piece.length)) (t.workdir.append place piece)
  | _ => t

/-- A client whose draft is complete gives it its name. -/
def publish (t : Traffic) (k : Nat) (mishap : Option Fault) (v : Visitor) : Traffic :=
  match v.drafting with
  | .writing _ done =>
      if done < v.contents.length then t
      else
        match OwnedFile.promote mishap t.workdir v.name with
        | (.ok _, workdir) => t.reach k .published workdir
        | (.error _, workdir) => t.reach k .failed workdir
  | _ => t

/-- A client gives its published file up. -/
def withdraw (t : Traffic) (k : Nat) (v : Visitor) : Traffic :=
  match v.drafting with
  | .published => t.reach k .withdrawn ((OwnedFile.adopt v.name).discard t.workdir)
  | _ => t

/-- A sweep removes the entry it has read, or else reads the next one if that is for the target.
It ends when there is no other. -/
def advance (target : UInt32) (w : Workdir) (sweep : Sweep) : Sweep × Workdir :=
  match sweep.inHand, sweep.ahead with
  | some (entry, text), _ =>
      match w.remove entry with
      | .error _ => ({ sweep with inHand := none }, w)
      | .ok w =>
          let channel := Text.trim text
          if channel = "" then ({ sweep with inHand := none }, w)
          else ({ sweep with inHand := none, yielded := sweep.yielded ++ [(entry, channel)] }, w)
  | none, [] => ({ sweep with ended := some .complete }, w)
  | none, entry :: ahead =>
      if AttachFile.isFor target entry then
        match AttachFile.readText w entry with
        | .error _ => ({ sweep with ahead := ahead }, w)
        | .ok text => ({ sweep with ahead := ahead, inHand := some (entry, text) }, w)
      else ({ sweep with ahead := ahead }, w)

/-- The next step of a sweep. -/
def proceed (t : Traffic) (k : Nat) (sweep : Sweep) : Traffic :=
  if sweep.ended.isSome then t
  else
    let (sweep, workdir) := advance t.target t.workdir sweep
    t.carry k sweep workdir

/-- The listing of a sweep breaks off, between two entries. -/
def breakOff (t : Traffic) (k : Nat) (sweep : Sweep) : Traffic :=
  if sweep.ended.isSome ∨ sweep.inHand.isSome then t
  else t.carry k { ahead := [], ended := some .broken } t.workdir

/-- What becomes of the traffic with a move. -/
def move (t : Traffic) : TrafficMove → Traffic
  | .visit name contents => { t with visitors := t.visitors ++ [⟨name, contents, .idle⟩] }
  | .create k => (t.visitors[k]?).elim t (t.create k ·)
  | .write k count => (t.visitors[k]?).elim t (t.write k · count)
  | .publish k mishap => (t.visitors[k]?).elim t (t.publish k mishap ·)
  | .withdraw k => (t.visitors[k]?).elim t (t.withdraw k ·)
  | .list listing =>
      if listing.Perm t.workdir.names then
        { t with sweeps := t.sweeps ++ [{ ahead := listing }] }
      else t
  | .proceed k => (t.sweeps[k]?).elim t (t.proceed k ·)
  | .breakOff k => (t.sweeps[k]?).elim t (t.breakOff k ·)

/-- What becomes of the traffic with these moves. -/
def run (t : Traffic) (moves : List TrafficMove) : Traffic := moves.foldl move t

end Traffic

end AttachService
