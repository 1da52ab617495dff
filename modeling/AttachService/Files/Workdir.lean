/-
Module: AttachService.Files.Workdir
Purpose: A tree of files, folders, symbolic links and sockets, and a folder to work in.
Trusted boundary: none
Main exports: EntryKind, Entry, Place, Workdir, Workdir.entry?, Workdir.put, Workdir.erase,
  Workdir.names
-/
import AttachService.Files.Path

namespace AttachService

/-!
A tree is the list of what is where.  A place is the list of names that lead to it from the
root.  The root, the folder to work in and the folders between them are always there, and are
not listed.
-/

/-- What an entry of a folder is. -/
inductive EntryKind where
  | file (contents : List UInt8)
  | folder
  /-- A symbolic link to a path. -/
  | link (target : List UInt8)
  /-- A socket, and the number of whoever listens on it, if anybody does. -/
  | socket (listener : Option Nat)
deriving Repr, Inhabited, DecidableEq

/-- An entry of a folder, and what reading or removing it fails with, if it does. -/
structure Entry where
  kind : EntryKind
  readFault : Option Fault := none
  removeFault : Option Fault := none
deriving Repr, Inhabited, DecidableEq

/-- A place in the tree. -/
abbrev Place : Type := List Name

/-- A tree, as the entries at their places.  No place is listed twice. -/
structure Workdir where
  /-- The folder to work in, where relative paths begin. -/
  home : Place := []
  entries : List (Place × Entry) := []
deriving Repr, Inhabited, DecidableEq

namespace Workdir

/-- The entry at a place. -/
def entry? (w : Workdir) (place : Place) : Option Entry :=
  if place.isPrefixOf w.home then some { kind := .folder } else w.entries.lookup place

/-- Whether a place is a folder. -/
def isFolder (w : Workdir) (place : Place) : Bool :=
  (w.entry? place).any fun e => e.kind = .folder

/-- Leave out what is at a place. -/
def erase (w : Workdir) (place : Place) : Workdir :=
  { w with entries := w.entries.filter fun e => e.1 ≠ place }

/-- Put an entry at a place, in place of what was there. -/
def put (w : Workdir) (place : Place) (entry : Entry) : Workdir :=
  { w with entries := (w.erase place).entries ++ [(place, entry)] }

/-- The path of the folder to work in. -/
def homePath (w : Workdir) : List UInt8 :=
  match w.home with
  | [] => [Path.slash]
  | home => home.flatMap fun name => Path.slash :: name

/-- The names in the folder to work in. -/
def names (w : Workdir) : List Name :=
  w.entries.filterMap fun (place, _) =>
    if place.dropLast = w.home then place.getLast? else none

end Workdir

end AttachService
