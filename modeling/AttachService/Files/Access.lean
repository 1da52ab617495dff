/-
Module: AttachService.Files.Access
Purpose: Reading, writing, removing and renaming what is in a tree, by path.
Trusted boundary: the rules for what replaces what are those of POSIX on Linux
Main exports: Workdir.read, Workdir.exists?, Workdir.create, Workdir.append, Workdir.add,
  Workdir.remove, Workdir.rename
-/
import AttachService.Files.Lookup

namespace AttachService

/-! An operation either fails and changes nothing, or does all it is there for. -/

namespace Workdir

/-! ### Reading -/

/-- Whether there is something at a path. -/
def exists? (w : Workdir) (path : List UInt8) : Except Fault Bool :=
  match w.reach path with
  | .error .notFound => .ok false
  | .error kind => .error (.plain kind)
  | .ok _ => .ok true

/-- The contents of a file. -/
def read (w : Workdir) (path : List UInt8) : Except Fault (List UInt8) :=
  match w.reach path with
  | .error kind => .error (.plain kind)
  | .ok entry =>
      match entry.kind, entry.readFault with
      | .folder, _ => .error (.plain .isADirectory)
      | _, some fault => .error fault
      | .file contents, none => .ok contents
      | _, none => .error (.plain .other)

/-! ### Changing -/

/-- Make a file empty, creating it if need be.  Gives its place. -/
def create (w : Workdir) (path : List UInt8) : Except Fault (Place × Workdir) :=
  match w.locate .make path with
  | .error kind => .error (.plain kind)
  | .ok (.folder _) => .error (.plain .isADirectory)
  | .ok (.name folder name _) =>
      let place := folder ++ [name]
      match w.entry? place with
      | none => .ok (place, w.put place { kind := .file [] })
      | some entry =>
          match entry.kind with
          | .file _ => .ok (place, w.put place { entry with kind := .file [] })
          | .folder => .error (.plain .isADirectory)
          | _ => .error (.plain .other)

/-- Add bytes to the file at a place. -/
def append (w : Workdir) (place : Place) (bytes : List UInt8) : Workdir :=
  match w.entry? place with
  | some entry =>
      match entry.kind with
      | .file contents => w.put place { entry with kind := .file (contents ++ bytes) }
      | _ => w
  | none => w

/-- Write a whole file. -/
def write (w : Workdir) (path contents : List UInt8) : Except Fault Workdir :=
  match w.create path with
  | .error fault => .error fault
  | .ok (place, w) => .ok (w.append place contents)

/-- Put something new at a path that nothing is at.  Only a folder can have a name with a
slash after it. -/
def add (w : Workdir) (path : List UInt8) (kind : EntryKind) : Except FaultKind Workdir :=
  match w.locate .itself path with
  | .error fault => .error fault
  | .ok (.folder _) => .error .alreadyExists
  | .ok (.name folder name slash) =>
      match w.find folder name with
      | .error fault => .error fault
      | .ok (some _) => .error .alreadyExists
      | .ok none =>
          if slash ∧ kind ≠ .folder then .error .notFound
          else .ok (w.put (folder ++ [name]) { kind := kind })

/-- Make a folder. -/
def makeFolder (w : Workdir) (path : List UInt8) : Except Fault Workdir :=
  match w.add path .folder with
  | .error kind => .error (.plain kind)
  | .ok w => .ok w

/-- Make a symbolic link.  A NUL in either path is found first, then all else that makes the
target unfit. -/
def makeLink (w : Workdir) (path target : List UInt8) : Except Fault Workdir :=
  if 0 ∈ path ∨ 0 ∈ target then .error (.plain .invalidInput)
  else
    match Path.fault? target with
    | some kind => .error (.plain kind)
    | none =>
        match w.add path (.link target) with
        | .error kind => .error (.plain kind)
        | .ok w => .ok w

/-- Remove what is not a folder.  A link is removed itself. -/
def remove (w : Workdir) (path : List UInt8) : Except Fault Workdir :=
  match w.locate .itself path with
  | .error kind => .error (.plain kind)
  | .ok (.folder _) => .error (.plain .isADirectory)
  | .ok (.name folder name slash) =>
      match w.find folder name with
      | .error kind => .error (.plain kind)
      | .ok none => .error (.plain .notFound)
      | .ok (some entry) =>
          if entry.kind = .folder then .error (.plain .isADirectory)
          else if slash then .error (.plain .notADirectory)
          else
            match entry.removeFault with
            | some fault => .error fault
            | none => .ok (w.erase (folder ++ [name]))

/-- Move an entry to another place, in place of what is there unless that is a folder.
Folders are not moved. -/
def move (w : Workdir) (old new : Place) (entry : Entry) : Except Fault Workdir :=
  if entry.kind = .folder then .error (.plain .unsupported)
  else if w.isFolder new then .error (.plain .isADirectory)
  else .ok ((w.erase old).put new entry)

/-- Give a file, link or socket another path.  A NUL in either path is found first. -/
def rename (w : Workdir) (old new : List UInt8) : Except Fault Workdir :=
  if 0 ∈ old ∨ 0 ∈ new then .error (.plain .invalidInput)
  else
    match w.locate .itself old, w.locate .itself new with
    | .error kind, _ => .error (.plain kind)
    | .ok _, .error kind => .error (.plain kind)
    | .ok (.name oldFolder oldName oldSlash), .ok (.name newFolder newName newSlash) =>
        match w.find oldFolder oldName, w.find newFolder newName with
        | .error kind, _ => .error (.plain kind)
        | .ok none, _ => .error (.plain .notFound)
        | .ok (some _), .error kind => .error (.plain kind)
        | .ok (some entry), .ok _ =>
            if (oldSlash ∨ newSlash) ∧ entry.kind ≠ .folder then
              .error (.plain .notADirectory)
            else w.move (oldFolder ++ [oldName]) (newFolder ++ [newName]) entry
    | .ok _, .ok _ => .error (.plain .resourceBusy)

end Workdir

end AttachService
