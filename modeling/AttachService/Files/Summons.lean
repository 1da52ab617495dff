/-
Module: AttachService.Files.Summons
Purpose: How a client gets the attention of a process: an attach file, then a signal.
Trusted boundary: the only process there is to summon is the one whose directory this is
Main exports: Machine, SummonsFailure, Summons, Summons.send, Summons.withdraw
-/
import AttachService.Files.AttachFile
import AttachService.Files.OwnedFile

namespace AttachService

/-- A process, its working directory, the signals it received, and the client that sends them. -/
structure Machine where
  pid : UInt32
  /-- The number of the client, which is the process itself unless something else is said. -/
  client : UInt32 := pid
  workdir : Workdir := {}
  /-- How many attach files the client has set out to publish. -/
  attempts : UInt32 := 0
  /-- How often it was signalled. -/
  quits : Nat := 0
deriving Repr, DecidableEq

/-- Why a process could not be summoned. -/
inductive SummonsFailure where
  | noProcess (pid : UInt32)
  | io (fault : Fault)
deriving Repr, DecidableEq

/-- The words for a failed summons.  To the operating system the number of a process is
signed, and that is how it is shown here. -/
def SummonsFailure.message : SummonsFailure → String
  | .noProcess pid => "Process " ++ Numeral.ofInt pid.toInt32.toInt ++ " not found"
  | .io fault => fault.text

namespace Machine

/-- The working directory of a process, as seen from here. -/
def directoryOf (m : Machine) (pid : UInt32) : Except SummonsFailure Place :=
  if pid = m.pid then .ok m.workdir.home else .error (.noProcess pid)

/-- Send a process the signal that makes it look for attach files. -/
def quit (m : Machine) (pid : UInt32) : Except SummonsFailure Machine :=
  if pid = m.pid then .ok { m with quits := m.quits + 1 } else .error (.noProcess pid)

end Machine

/-- A standing request that a process open a channel. -/
structure Summons where
  target : UInt32
  channel : String
  /-- The attach file, once it is published. -/
  file : Option OwnedFile := none
deriving Repr, DecidableEq

/-- What goes wrong with a summons, beyond what the machine itself forbids. -/
structure SummonsMishaps where
  file : Mishaps := {}
  signal : Option Fault := none
deriving Repr, Inhabited, DecidableEq

namespace Summons

/-- Publish the attach file under a name of its own. -/
def publish (mishaps : Mishaps) (s : Summons) (m : Machine) :
    Except SummonsFailure Summons × Machine :=
  let name := AttachFile.name s.target m.client m.attempts
  let m := { m with attempts := m.attempts + 1 }
  match m.directoryOf s.target with
  | .error failure => (.error failure, m)
  | .ok _ =>
      match OwnedFile.publish mishaps m.workdir (Utf8.encode name) (Utf8.encode s.channel) with
      | (.error fault, workdir) => (.error (.io fault), { m with workdir := workdir })
      | (.ok file, workdir) => (.ok { s with file := some file }, { m with workdir := workdir })

/-- Signal the target, unless the signal cannot be sent. -/
def ring (mishap : Option Fault) (s : Summons) (m : Machine) :
    Except SummonsFailure Unit × Summons × Machine :=
  match mishap with
  | some fault => (.error (.io fault), s, m)
  | none =>
      match m.quit s.target with
      | .ok m => (.ok (), s, m)
      | .error failure => (.error failure, s, m)

/-- Summon the target.  The first time publishes the attach file; every time signals the
target, until it has claimed the file. -/
def send (mishaps : SummonsMishaps) (s : Summons) (m : Machine) :
    Except SummonsFailure Unit × Summons × Machine :=
  match s.file with
  | none =>
      match s.publish mishaps.file m with
      | (.error failure, m) => (.error failure, s, m)
      | (.ok s, m) => s.ring mishaps.signal m
  | some file =>
      match file.exists? m.workdir with
      | .error fault => (.error (.io fault), s, m)
      | .ok false => (.ok (), s, m)
      | .ok true => s.ring mishaps.signal m

/-- Give up.  A file that nobody has claimed is removed. -/
def withdraw (s : Summons) (m : Machine) : Machine :=
  match s.file with
  | none => m
  | some file => { m with workdir := file.discard m.workdir }

end Summons

end AttachService
