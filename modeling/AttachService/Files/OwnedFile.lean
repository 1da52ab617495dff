/-
Module: AttachService.Files.OwnedFile
Purpose: Files that appear all at once and go away with their owner.
Trusted boundary: none
Main exports: OwnedFile, Mishaps, OwnedFile.publish, OwnedFile.adopt, OwnedFile.exists?,
  OwnedFile.discard
-/
import AttachService.Files.Access
import AttachService.Text.Utf8

namespace AttachService

/-- A file that somebody owns, by its path.  Others may remove it first. -/
structure OwnedFile where
  path : List UInt8
deriving Repr, Inhabited, DecidableEq

/-- What goes wrong on the way to a published file, beyond what the tree itself forbids. -/
structure Mishaps where
  create : Option Fault := none
  /-- Writing fails after so many bytes. -/
  write : Option (Nat × Fault) := none
  sync : Option Fault := none
  rename : Option Fault := none
deriving Repr, Inhabited, DecidableEq

namespace OwnedFile

/-- The path a file is written under before it gets its own. -/
def draft (path : List UInt8) : List UInt8 := path ++ Utf8.encode ".tmp"

/-- Give the finished draft its own name.  A draft that cannot have it is removed, if
possible. -/
def promote (mishap : Option Fault) (w : Workdir) (path : List UInt8) :
    Except Fault OwnedFile × Workdir :=
  let renamed : Except Fault Workdir := match mishap with
    | some fault => .error fault
    | none => w.rename (draft path) path
  match renamed with
  | .ok w => (.ok ⟨path⟩, w)
  | .error fault =>
      match w.remove (draft path) with
      | .ok w => (.error fault, w)
      | .error _ => (.error fault, w)

/-- Publish contents at a path in one step: write a draft, make it durable, give it its
name.  Whoever reads the path sees all of the contents or what was there before. -/
def publish (mishaps : Mishaps) (w : Workdir) (path contents : List UInt8) :
    Except Fault OwnedFile × Workdir :=
  match mishaps.create with
  | some fault => (.error fault, w)
  | none =>
      match w.create (draft path) with
      | .error fault => (.error fault, w)
      | .ok (place, w) =>
          match mishaps.write with
          | some (count, fault) => (.error fault, w.append place (contents.take count))
          | none =>
              let w := w.append place contents
              match mishaps.sync with
              | some fault => (.error fault, w)
              | none => promote mishaps.rename w path

/-- Take over a file that is there already, or may be one day. -/
def adopt (path : List UInt8) : OwnedFile := ⟨path⟩

/-- Whether the file is still there. -/
def exists? (file : OwnedFile) (w : Workdir) : Except Fault Bool := w.exists? file.path

/-- Remove the file.  It does not matter if that fails. -/
def discard (file : OwnedFile) (w : Workdir) : Workdir :=
  match w.remove file.path with
  | .ok w => w
  | .error _ => w

end OwnedFile

end AttachService
