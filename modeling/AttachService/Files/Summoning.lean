/-
Module: AttachService.Files.Summoning
Purpose: A client that summons its target again and again, while the target claims its files.
Trusted boundary: creating, writing, reading, renaming, removing and listing are each atomic, and
  so are looking for a file and signalling
Main exports: SendPost, SendReport, Summoning, SummoningMove, Summoning.send, Summoning.move,
  Summoning.run, Summoning.sendNow
-/
import AttachService.Files.Summons
import AttachService.Files.Traffic

namespace AttachService

/-!
`Summons.send` carries one send through without a break.  Here the target can take any step of
any number of sweeps between two steps of a send, and each step of a send can fail.  A send takes
several steps: it looks for the process, or for the file if that is published already; it makes
the draft, writes it in pieces and gives it its name; and it signals the process.  It reports what
came of it when it ends.

A summons is given up between two sends.  A move whose party is not there or not at that point
changes nothing.
-/

/-- How far a send has come. -/
inductive SendPost where
  /-- None is under way. -/
  | resting
  /-- It has found the process, and a name for the file. -/
  | naming (name : Name)
  /-- The draft is at this place, and so many bytes are in it. -/
  | writing (name : Name) (place : Place) (count : Nat)
  /-- The file is there, because it was published just now or was seen; the process is going to
  be signalled. -/
  | ringing (published : Bool)
  /-- The summons was given up. -/
  | withdrawn
deriving Repr, Inhabited, DecidableEq

/-- What came of a send. -/
structure SendReport where
  answer : Except SummonsFailure Unit
  /-- Whether it published the file. -/
  published : Bool := false
  /-- Whether it signalled the process. -/
  rang : Bool := false
deriving Repr

/-- A summons, the process it is for, and all that is under way. -/
structure Summoning where
  summons : Summons
  machine : Machine
  sweeps : List Sweep := []
  post : SendPost := .resting
  /-- What came of the sends, the first one first. -/
  sent : List SendReport := []
  /-- The names that files were published under. -/
  published : List Name := []
deriving Repr

/-- One step of one party. -/
inductive SummoningMove where
  /-- A send begins.  The process may be out of sight. -/
  | send (mishap : Option SummonsFailure)
  /-- The draft is created, which may fail. -/
  | create (mishap : Option Fault)
  /-- So many more bytes are written. -/
  | write (count : Nat)
  /-- Writing the draft, or making it durable, fails. -/
  | fail (fault : Fault)
  /-- The finished draft is given its name, which may fail. -/
  | publish (mishap : Option Fault)
  /-- The process is signalled, which may fail. -/
  | ring (mishap : Option Fault)
  /-- The summons is given up. -/
  | withdraw
  /-- The target lists its directory, in this order, and begins a sweep. -/
  | list (listing : List Name)
  /-- The sweep with this number takes its next step. -/
  | proceed (sweep : Nat)
  /-- The listing of the sweep with this number breaks off. -/
  | breakOff (sweep : Nat)
deriving Repr, DecidableEq

namespace Summoning

/-- A summons before the first send. -/
def start (target : UInt32) (channel : String) (machine : Machine) : Summoning :=
  { summons := { target := target, channel := channel }, machine := machine }

/-- The send that is under way ends. -/
def report (v : Summoning) (told : SendReport) : Summoning :=
  { v with post := .resting, sent := v.sent ++ [told] }

/-- The send comes so far, leaving this behind. -/
def reach (v : Summoning) (post : SendPost) (workdir : Workdir) : Summoning :=
  { v with post := post, machine := { v.machine with workdir := workdir } }

/-- One more attempt to publish a file. -/
def count (v : Summoning) : Summoning :=
  { v with machine := { v.machine with attempts := v.machine.attempts + 1 } }

/-- Where the process works, if it can be seen. -/
def directory (v : Summoning) (mishap : Option SummonsFailure) : Except SummonsFailure Place :=
  match mishap with
  | some failure => .error failure
  | none => v.machine.directoryOf v.summons.target

/-- A send begins. -/
def send (v : Summoning) (mishap : Option SummonsFailure) : Summoning :=
  match v.post with
  | .resting =>
      match v.summons.file with
      | none =>
          let name := AttachFile.name v.summons.target v.machine.client v.machine.attempts
          let v := v.count
          match v.directory mishap with
          | .error failure => v.report { answer := .error failure }
          | .ok _ => { v with post := .naming (Utf8.encode name) }
      | some file =>
          match file.exists? v.machine.workdir with
          | .error fault => v.report { answer := .error (.io fault) }
          | .ok false => v.report { answer := .ok () }
          | .ok true => { v with post := .ringing false }
  | _ => v

/-- The draft is created. -/
def create (v : Summoning) (mishap : Option Fault) : Summoning :=
  match v.post with
  | .naming name =>
      match mishap with
      | some fault => v.report { answer := .error (.io fault) }
      | none =>
          match v.machine.workdir.create (OwnedFile.draft name) with
          | .error fault => v.report { answer := .error (.io fault) }
          | .ok (place, workdir) => v.reach (.writing name place 0) workdir
  | _ => v

/-- What the file is going to hold. -/
def contents (v : Summoning) : List UInt8 := Utf8.encode v.summons.channel

/-- The next piece is written. -/
def write (v : Summoning) (count : Nat) : Summoning :=
  match v.post with
  | .writing name place done =>
      let piece := (v.contents.drop done).take count
      v.reach (.writing name place (done + piece.length)) (v.machine.workdir.append place piece)
  | _ => v

/-- The draft cannot be finished. -/
def fail (v : Summoning) (fault : Fault) : Summoning :=
  match v.post with
  | .writing .. => v.report { answer := .error (.io fault) }
  | _ => v

/-- The finished draft is given its name. -/
def publish (v : Summoning) (mishap : Option Fault) : Summoning :=
  match v.post with
  | .writing name _ done =>
      if done < v.contents.length then v
      else
        match OwnedFile.promote mishap v.machine.workdir name with
        | (.error fault, workdir) =>
            (v.reach .resting workdir).report { answer := .error (.io fault) }
        | (.ok file, workdir) =>
            { v.reach (.ringing true) workdir with
              summons := { v.summons with file := some file }
              published := v.published ++ [name] }
  | _ => v

/-- The process is signalled, and the send ends. -/
def ring (v : Summoning) (mishap : Option Fault) : Summoning :=
  match v.post with
  | .ringing published =>
      match v.summons.ring mishap v.machine with
      | (.error failure, _, machine) =>
          { v with machine := machine }.report { answer := .error failure, published := published }
      | (.ok (), _, machine) =>
          { v with machine := machine }.report
            { answer := .ok (), published := published, rang := true }
  | _ => v

/-- The summons is given up, unless a send is under way. -/
def withdraw (v : Summoning) : Summoning :=
  match v.post with
  | .resting => { v with post := .withdrawn, machine := v.summons.withdraw v.machine }
  | _ => v

/-- The directory as the target sees it. -/
def traffic (v : Summoning) : Traffic :=
  { target := v.machine.pid, workdir := v.machine.workdir, sweeps := v.sweeps }

/-- The target makes a move. -/
def sweep (v : Summoning) (m : TrafficMove) : Summoning :=
  let t := v.traffic.move m
  { v with machine := { v.machine with workdir := t.workdir }, sweeps := t.sweeps }

/-- What becomes of it with a move. -/
def move (v : Summoning) : SummoningMove → Summoning
  | .send mishap => v.send mishap
  | .create mishap => v.create mishap
  | .write count => v.write count
  | .fail fault => v.fail fault
  | .publish mishap => v.publish mishap
  | .ring mishap => v.ring mishap
  | .withdraw => v.withdraw
  | .list listing => v.sweep (.list listing)
  | .proceed k => v.sweep (.proceed k)
  | .breakOff k => v.sweep (.breakOff k)

/-- What becomes of it with these moves. -/
def run (v : Summoning) (moves : List SummoningMove) : Summoning := moves.foldl move v

/-- The draft is written and gets its name and nobody overtakes, where this goes wrong. -/
def finishNow (v : Summoning) (mishaps : Mishaps) : List SummoningMove :=
  match mishaps.write, mishaps.sync with
  | some (count, fault), _ => [.write count, .fail fault]
  | none, some fault => [.write v.contents.length, .fail fault]
  | none, none => [.write v.contents.length, .publish mishaps.rename]

/-- A send that nobody overtakes, where this goes wrong. -/
def sendNow (v : Summoning) (mishaps : SummonsMishaps) : List SummoningMove :=
  .send none :: .create mishaps.file.create :: (v.finishNow mishaps.file ++ [.ring mishaps.signal])

end Summoning

end AttachService
