/-
Module: AttachService.Files.Lookup
Purpose: Finding the places that paths lead to, through folders and symbolic links.
Trusted boundary: which of two faults of a path is found first is as on Linux
Main exports: Ending, Manner, Workdir.find, Workdir.walk, Workdir.locate
-/
import AttachService.Files.Workdir

namespace AttachService

/-!
A path is followed component by component.  Each but the last has to be a folder or a link
that leads to one.  What happens at the last depends on what the path is for, which is its
manner; nothing is there yet if something is going to be made.
-/

/-- Where a path ends. -/
inductive Ending where
  /-- At a folder that is not named but pointed at: the root, or by one dot or two. -/
  | folder (place : Place)
  /-- At a name in a folder, whether or not anything is there.  A slash after the name says
  that it has to be a folder. -/
  | name (folder : Place) (name : Name) (slash : Bool)
deriving Repr, Inhabited, DecidableEq

/-- How the last component of a path is taken. -/
inductive Manner where
  /-- For what it is, a link included. -/
  | itself
  /-- A link stands for what it leads to. -/
  | follow
  /-- A link stands for what it leads to, and where nothing is, a file is going to be made.
  No file can have a name with a slash after it, whatever is there. -/
  | make
deriving Repr, Inhabited, DecidableEq

namespace Workdir

/-- How many symbolic links a path may lead through. -/
def linkBound : Nat := 40

/-- What is under a name in a folder. -/
def find (w : Workdir) (folder : Place) (name : Name) : Except FaultKind (Option Entry) :=
  if Path.nameBytes < name.length then .error .invalidFilename
  else .ok (w.entry? (folder ++ [name]))

/-- Where a path begins, seen from a folder. -/
def start (folder : Place) (path : List UInt8) : Place :=
  if Path.isAbsolute path then [] else folder

/-- Follow components from a place; `slash` says whether the last has a slash after it.
Where a link has to be followed, `detour` goes on with the components of its target before
the rest. -/
def walkVia (w : Workdir) (manner : Manner)
    (detour : Place → List Name → Bool → Except FaultKind Ending) :
    Place → List Name → (slash : Bool) → Except FaultKind Ending
  | place, [], _ => .ok (.folder place)
  | place, name :: rest, slash =>
      if ¬ w.isFolder place then .error .notADirectory
      else if name = Path.here then walkVia w manner detour place rest slash
      else if name = Path.above then walkVia w manner detour place.dropLast rest slash
      else if rest = [] ∧ manner = .itself then .ok (.name place name slash)
      else if rest = [] ∧ manner = .make ∧ slash then .error .isADirectory
      else
        match w.find place name with
        | .error kind => .error kind
        | .ok (some { kind := .link target, .. }) =>
            detour (start place target) (Path.components target ++ rest)
              (slash || (rest.isEmpty && Path.wantsFolder target))
        | .ok entry =>
            if rest = [] then .ok (.name place name slash)
            else if entry = none then .error .notFound
            else walkVia w manner detour (place ++ [name]) rest slash

/-- Follow components from a place, through at most so many links. -/
def walk (w : Workdir) (manner : Manner) :
    (links : Nat) → Place → List Name → (slash : Bool) → Except FaultKind Ending
  | 0 => w.walkVia manner fun _ _ _ => .error .filesystemLoop
  | links + 1 => w.walkVia manner (walk w manner links)

/-- Find where a path leads. -/
def locate (w : Workdir) (manner : Manner) (path : List UInt8) : Except FaultKind Ending :=
  match Path.fault? path with
  | some kind => .error kind
  | none =>
      w.walk manner linkBound (start w.home path) (Path.components path)
        (Path.wantsFolder path)

/-- The entry that a path leads to. -/
def reach (w : Workdir) (path : List UInt8) : Except FaultKind Entry :=
  match w.locate .follow path with
  | .error kind => .error kind
  | .ok (.folder _) => .ok { kind := .folder }
  | .ok (.name folder name slash) =>
      match w.entry? (folder ++ [name]) with
      | none => .error .notFound
      | some entry =>
          if slash ∧ entry.kind ≠ .folder then .error .notADirectory else .ok entry

end Workdir

end AttachService
