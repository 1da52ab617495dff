/-
Module: AttachService.Files.Path
Purpose: Paths as byte strings: their components, and which of them are no paths at all.
Trusted boundary: none
Main exports: Name, Path.components, Path.join, Path.fault?
-/
import AttachService.Fault

namespace AttachService

/-- The name of a directory entry: any bytes but slashes and NULs. -/
abbrev Name : Type := List UInt8

namespace Path

/-- The byte between the components of a path. -/
def slash : UInt8 := 0x2F

/-- The name a directory has in itself. -/
def here : Name := [0x2E]

/-- The name of the directory above. -/
def above : Name := [0x2E, 0x2E]

/-- Put one byte before the first of some components, or end a component at a slash. -/
def splitStep (b : UInt8) (parts : List Name) : List Name :=
  if b = slash then [] :: parts
  else
    match parts with
    | [] => [[b]]
    | part :: more => (b :: part) :: more

/-- The components of a path, in order.  Repeated slashes count as one. -/
def components (path : List UInt8) : List Name :=
  (path.foldr splitStep [[]]).filter (· ≠ [])

/-- A path that begins with a slash begins at the root. -/
def isAbsolute (path : List UInt8) : Bool := path.head? = some slash

/-- A path that ends in a slash names a directory or nothing. -/
def wantsFolder (path : List UInt8) : Bool := path.getLast? = some slash

/-- A path seen from a directory.  One slash stands between them; an absolute path is the
same from everywhere. -/
def join (directory path : List UInt8) : List UInt8 :=
  if directory = [] ∨ isAbsolute path then path
  else if wantsFolder directory then directory ++ path
  else directory ++ slash :: path

/-- The longest name of an entry, in bytes. -/
def nameBytes : Nat := 255

/-- The longest path with the NUL after it, in bytes. -/
def pathBytes : Nat := 4096

/-- What makes bytes unfit for a path, before anything is looked up. -/
def fault? (path : List UInt8) : Option FaultKind :=
  if 0 ∈ path then some .invalidInput
  else if path = [] then some .notFound
  else if pathBytes ≤ path.length then some .invalidFilename
  else none

end Path

end AttachService
