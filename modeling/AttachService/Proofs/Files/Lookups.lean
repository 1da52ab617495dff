/-
Module: AttachService.Proofs.Files.Lookups
Purpose: Where paths lead: the folders and links before the last component, and the last one.
Trusted boundary: none
Main exports: Path.exists_components_append, Workdir.Leads, Workdir.leads_of_walk,
  Workdir.locate_itself_eq_ok_iff, Workdir.locate_of_itself, Workdir.KeepsWays,
  Workdir.KeepsWays.locate_itself, Workdir.IsAt
-/
import AttachService.Proofs.Files.Folder

namespace AttachService

/-!
Every manner of following a path treats all components but the last alike.  So a lookup is cut in
two: `Leads` says how the front of a path leads to a folder, and what comes of the last component
is seen from that folder.  The front depends on the folders and links of the tree alone.
-/

/-! ### Components -/

namespace Path

/-- Bytes without a slash go on with the last part of what is before them, which may be
empty. -/
theorem exists_foldr_splitStep (path : List UInt8) :
    ∃ front last, (∀ more, path.foldr splitStep [more] = front ++ [last ++ more])
      ∧ (last = [] → path = [] ∨ wantsFolder path = true) := by
  induction path with
  | nil => exact ⟨[], [], fun _ => rfl, fun _ => .inl rfl⟩
  | cons b rest ih =>
      obtain ⟨front, last, split, empty⟩ := ih
      by_cases same : b = slash
      · refine ⟨[] :: front, last, fun more => ?_, fun nothing => .inr ?_⟩
        · rw [List.foldr_cons, split, splitStep.eq_def, if_pos same, List.cons_append]
        · rcases empty nothing with rfl | wants
          · simp [wantsFolder, same]
          · cases rest with
            | nil => cases wants
            | cons c rest => rwa [wantsFolder, List.getLast?_cons_cons]
      · cases front with
        | nil =>
            refine ⟨[], b :: last, fun more => ?_, fun nothing => by cases nothing⟩
            rw [List.foldr_cons, split, splitStep.eq_def, if_neg same]
            rfl
        | cons part parts =>
            refine ⟨(b :: part) :: parts, last, fun more => ?_, fun nothing => ?_⟩
            · rw [List.foldr_cons, split, splitStep.eq_def, if_neg same]
              rfl
            · rcases empty nothing with rfl | wants
              · have short := congrArg List.length (split [])
                simp at short
              · cases rest with
                | nil => cases wants
                | cons c rest => exact .inr (by rwa [wantsFolder, List.getLast?_cons_cons])

/-- The components of a path that something is added to: the last is longer, or there is one
more, if the path ended in a slash. -/
theorem exists_components_append (path : List UInt8) {more : Name} (nonempty : more ≠ [])
    (noSlash : slash ∉ more) :
    ∃ front last, components (path ++ more) = front ++ [last ++ more]
      ∧ components path = front ++ (if last = [] then [] else [last])
      ∧ (last = [] → path = [] ∨ wantsFolder path = true) := by
  obtain ⟨front, last, split, empty⟩ := exists_foldr_splitStep path
  refine ⟨front.filter (· ≠ []), last, ?_, ?_, empty⟩
  · rw [components, List.foldr_append, foldr_splitStep noSlash, split, List.filter_append]
    congr 1
    simp [nonempty]
  · rw [components, split, List.append_nil, List.filter_append]
    congr 1
    split <;> simp [*]

end Path

/-! ### Endings -/

/-- The place that a path ends at. -/
def Ending.place : Ending → Place
  | .folder here => here
  | .name parent child _ => parent ++ [child]

/-- Where a path ends whose last component is taken for what it is. -/
def Ending.last (parent : Place) (component : Name) (slash : Bool) : Ending :=
  if component = Path.here then .folder parent
  else if component = Path.above then .folder parent.dropLast
  else .name parent component slash

/-- A path may lead on from here. -/
def Entry.IsWay (entry : Entry) : Prop :=
  entry.kind = .folder ∨ ∃ target, entry.kind = .link target

namespace Workdir

variable {w after : Workdir} {manner : Manner} {links left : Nat} {place folder : Place}
  {names rest : List Name} {name : Name} {slash : Bool} {ending : Ending} {path : List UInt8}

/-- What is under a name in a folder is found, unless the name is too long. -/
theorem find_eq_ok_iff {found : Option Entry} :
    w.find place name = .ok found
      ↔ name.length ≤ Path.nameBytes ∧ w.entry? (place ++ [name]) = found := by
  unfold find
  split
  · next long => simp [Nat.not_le.2 long]
  · next short => simp [Nat.not_lt.1 short]

theorem isFolder_iff :
    w.isFolder place = true ↔ ∃ entry, w.entry? place = some entry ∧ entry.kind = .folder := by
  simp [isFolder, Option.any_eq_true]

/-! ### The steps of a walk -/

/-- What a walk does at a link. -/
def detour (w : Workdir) (manner : Manner) :
    (links : Nat) → Place → List Name → Bool → Except FaultKind Ending
  | 0 => fun _ _ _ => .error .filesystemLoop
  | links + 1 => w.walk manner links

/-- Walking on is the same whether or not links may still be followed, but for what a link leads
to. -/
theorem walk_eq (w : Workdir) (manner : Manner) (links : Nat) :
    w.walk manner links = w.walkVia manner (w.detour manner links) := by
  cases links <;> rfl

/-- There is no way through anything but a folder. -/
theorem isFolder_of_walk (walked : w.walk manner links place names slash = .ok ending)
    (more : names ≠ []) : w.isFolder place = true := by
  cases names with
  | nil => exact absurd rfl more
  | cons name rest =>
      by_contra outside
      rw [walk_eq, walkVia, if_pos outside] at walked
      cases walked

/-- A dot stays where it is. -/
theorem walk_here (inside : w.isFolder place = true) :
    w.walk manner links place (Path.here :: rest) slash = w.walk manner links place rest slash := by
  rw [walk_eq, walkVia, if_neg (not_not_intro inside), if_pos rfl]

/-- Two dots lead to the folder above. -/
theorem walk_above (inside : w.isFolder place = true) :
    w.walk manner links place (Path.above :: rest) slash
      = w.walk manner links place.dropLast rest slash := by
  rw [walk_eq, walkVia, if_neg (not_not_intro inside), if_neg (by decide), if_pos rfl]

section

variable (inside : w.isFolder place = true) (notHere : name ≠ Path.here)
  (notAbove : name ≠ Path.above) (more : rest ≠ [])

include inside notHere notAbove more

/-- At a component that is neither the last nor one of dots, what is there decides. -/
theorem walk_cons :
    w.walk manner links place (name :: rest) slash = match w.find place name with
      | .error kind => .error kind
      | .ok none => .error .notFound
      | .ok (some entry) =>
          match entry.kind with
          | .link target =>
              w.detour manner links (start place target) (Path.components target ++ rest) slash
          | _ => w.walk manner links (place ++ [name]) rest slash := by
  have unempty : rest.isEmpty = false := by simpa using more
  rw [walk_eq, walkVia, if_neg (not_not_intro inside), if_neg notHere, if_neg notAbove,
    if_neg fun last => more last.1, if_neg fun last => more last.1]
  simp only [unempty, Bool.false_and, Bool.or_false, if_neg more]
  rcases w.find place name with kind | _ | ⟨kind, readFault, removeFault⟩
  · rfl
  · rfl
  · cases kind <;> simp

end

/-! ### The front of a path -/

/-- Components lead from a place to another through folders and links, and so many more links can
be followed after them. -/
inductive Leads (w : Workdir) : (links : Nat) → Place → List Name → (left : Nat) → Place → Prop
  | arrived {links : Nat} {place : Place} : Leads w links place [] links place
  | here {links left : Nat} {place folder : Place} {rest : List Name}
      (inside : w.isFolder place = true) (onward : Leads w links place rest left folder) :
      Leads w links place (Path.here :: rest) left folder
  | above {links left : Nat} {place folder : Place} {rest : List Name}
      (inside : w.isFolder place = true) (onward : Leads w links place.dropLast rest left folder) :
      Leads w links place (Path.above :: rest) left folder
  | into {links left : Nat} {place folder : Place} {name : Name} {rest : List Name} {entry : Entry}
      (inside : w.isFolder place = true) (notHere : name ≠ Path.here) (notAbove : name ≠ Path.above)
      (found : w.find place name = .ok (some entry)) (kind : entry.kind = .folder)
      (onward : Leads w links (place ++ [name]) rest left folder) :
      Leads w links place (name :: rest) left folder
  | via {links left : Nat} {place folder : Place} {name : Name} {rest : List Name} {entry : Entry}
      {target : List UInt8} (inside : w.isFolder place = true) (notHere : name ≠ Path.here)
      (notAbove : name ≠ Path.above) (found : w.find place name = .ok (some entry))
      (kind : entry.kind = .link target)
      (onward : Leads w links (start place target) (Path.components target ++ rest) left folder) :
      Leads w (links + 1) place (name :: rest) left folder

/-- Whatever the manner, a walk gets to where the front of the path leads. -/
theorem Leads.walk {more : List Name} (leads : w.Leads links place names left folder)
    (manner : Manner) (unempty : more ≠ []) (slash : Bool) :
    w.walk manner links place (names ++ more) slash = w.walk manner left folder more slash := by
  have onward : ∀ rest : List Name, rest ++ more ≠ [] := fun rest => by simp [unempty]
  induction leads with
  | arrived => rfl
  | here inside _ ih => rw [List.cons_append, walk_here inside, ih]
  | above inside _ ih => rw [List.cons_append, walk_above inside, ih]
  | into inside notHere notAbove found kind _ ih =>
      rw [List.cons_append, walk_cons inside notHere notAbove (onward _), found]
      simp only [kind, ih]
  | via inside notHere notAbove found kind _ ih =>
      rw [List.cons_append, walk_cons inside notHere notAbove (onward _), found]
      simp only [kind, detour]
      rw [← List.append_assoc, ih]

/-- Where a walk ends, the front of the path has led to a folder. -/
theorem leads_of_walk {front : List Name}
    (walked : w.walk manner links place (front ++ [name]) slash = .ok ending) :
    ∃ left folder, w.Leads links place front left folder
      ∧ w.walk manner left folder [name] slash = .ok ending := by
  induction links using Nat.strongRecOn generalizing place front with
  | ind links fewer =>
    induction front generalizing place with
    | nil => exact ⟨links, place, .arrived, walked⟩
    | cons first front ih =>
        have inside := isFolder_of_walk walked (by simp)
        rw [List.cons_append] at walked
        by_cases here : first = Path.here
        · subst here
          rw [walk_here inside] at walked
          obtain ⟨left, folder, leads, last⟩ := ih walked
          exact ⟨left, folder, .here inside leads, last⟩
        · by_cases above : first = Path.above
          · subst above
            rw [walk_above inside] at walked
            obtain ⟨left, folder, leads, last⟩ := ih walked
            exact ⟨left, folder, .above inside leads, last⟩
          · rw [walk_cons inside here above (by simp)] at walked
            split at walked
            · cases walked
            · cases walked
            · next entry found =>
                split at walked
                · next target kind =>
                    cases links with
                    | zero => cases walked
                    | succ links =>
                        rw [detour, ← List.append_assoc] at walked
                        obtain ⟨left, folder, leads, last⟩ :=
                          fewer links (Nat.lt_succ_self links) walked
                        exact ⟨left, folder, .via inside here above found kind leads, last⟩
                · obtain ⟨same, at_, kind⟩ := isFolder_iff.1 (isFolder_of_walk walked (by simp))
                  rw [(find_eq_ok_iff.1 found).2] at at_
                  cases at_
                  obtain ⟨left, folder, leads, last⟩ := ih walked
                  exact ⟨left, folder, .into inside here above found kind leads, last⟩

/-! ### The last component -/

/-- The last component is not looked at if it is meant itself. -/
theorem walk_itself (inside : w.isFolder folder = true) (links : Nat) (name : Name) (slash : Bool) :
    w.walk .itself links folder [name] slash = .ok (Ending.last folder name slash) := by
  rw [walk_eq, walkVia, if_neg (not_not_intro inside), Ending.last]
  split
  · rw [walkVia]
  · split
    · rw [walkVia]
    · rw [if_pos ⟨rfl, rfl⟩]

/-- A path leads to a name if its front leads to a folder, whether or not there is such an
entry. -/
theorem locate_itself_eq_ok_iff {front : List Name} (fit : Path.fault? path = none)
    (cut : Path.components path = front ++ [name]) :
    w.locate .itself path = .ok ending ↔ ∃ left folder,
      w.Leads linkBound (start w.home path) front left folder ∧ w.isFolder folder = true
        ∧ ending = Ending.last folder name (Path.wantsFolder path) := by
  rw [locate, fit]
  simp only [cut]
  constructor
  · intro walked
    obtain ⟨left, folder, leads, last⟩ := leads_of_walk walked
    have inside := isFolder_of_walk last (by simp)
    rw [walk_itself inside] at last
    cases last
    exact ⟨left, folder, leads, inside, rfl⟩
  · rintro ⟨left, folder, leads, inside, rfl⟩
    rw [leads.walk _ (by simp), walk_itself inside]

/-- A path that leads anywhere is neither too long nor without components. -/
theorem fault?_of_locate (located : w.locate manner path = .ok ending) :
    Path.fault? path = none := by
  unfold locate at located
  split at located
  · cases located
  · assumption

/-- A name that a path ends at is its last component, and stands in the folder that the front
leads to. -/
theorem exists_leads_of_locate (located : w.locate .itself path = .ok (.name folder name slash)) :
    ∃ front left, Path.components path = front ++ [name]
      ∧ w.Leads linkBound (start w.home path) front left folder ∧ w.isFolder folder = true
      ∧ name ≠ Path.here ∧ name ≠ Path.above ∧ slash = Path.wantsFolder path := by
  have fit := fault?_of_locate located
  rcases List.eq_nil_or_concat (Path.components path) with none_ | ⟨front, last, cut⟩
  · rw [locate, fit] at located
    simp only [none_, walk_eq, walkVia] at located
    cases located
  · rw [List.concat_eq_append] at cut
    obtain ⟨left, parent, leads, inside, same⟩ := (locate_itself_eq_ok_iff fit cut).1 located
    unfold Ending.last at same
    split at same
    · cases same
    · next notHere =>
        split at same
        · cases same
        · next notAbove =>
            cases same
            exact ⟨front, left, cut, leads, inside, notHere, notAbove, rfl⟩

/-- A name that no link is under is found in any manner.  Only a file that is to be made cannot
have a slash after its name. -/
theorem locate_of_itself (located : w.locate .itself path = .ok (.name folder name slash))
    (short : name.length ≤ Path.nameBytes)
    (plain : ∀ entry, w.entry? (folder ++ [name]) = some entry →
      ∀ target, entry.kind ≠ .link target)
    (manner : Manner) (unslashed : manner = .make → slash = false) :
    w.locate manner path = .ok (.name folder name slash) := by
  obtain ⟨front, left, cut, leads, inside, notHere, notAbove, rfl⟩ :=
    exists_leads_of_locate located
  have found : w.find folder name = .ok (w.entry? (folder ++ [name])) :=
    find_eq_ok_iff.2 ⟨short, rfl⟩
  rw [locate, fault?_of_locate located]
  simp only [cut]
  rw [leads.walk _ (by simp), walk_eq, walkVia, if_neg (not_not_intro inside), if_neg notHere,
    if_neg notAbove]
  split
  · rfl
  · have named : ¬ (([] : List Name) = [] ∧ manner = .make ∧ Path.wantsFolder path = true) := by
      rintro ⟨-, makes, slashed⟩
      rw [unslashed makes] at slashed
      cases slashed
    rw [if_neg named, found]
    split
    · next broken => cases broken
    · next target _ _ linked =>
        injection linked with linked
        exact absurd rfl (plain _ linked target)
    · rw [if_pos rfl]

/-! ### Trees with the same ways -/

/-- Every folder and every link of a tree is in another as well. -/
structure KeepsWays (w after : Workdir) : Prop where
  home : after.home = w.home
  kept : ∀ place entry, w.entry? place = some entry → entry.IsWay → after.entry? place = some entry

namespace KeepsWays

variable (keeps : w.KeepsWays after)

include keeps

/-- A folder is still one after a change that keeps the ways. -/
theorem isFolder (inside : w.isFolder place = true) : after.isFolder place = true := by
  obtain ⟨entry, found, kind⟩ := isFolder_iff.1 inside
  exact isFolder_iff.2 ⟨entry, keeps.kept place entry found (.inl kind), kind⟩

/-- A way through folders and links leads where it led before a change that keeps the ways. -/
theorem leads (leads : w.Leads links place names left folder) :
    after.Leads links place names left folder := by
  induction leads with
  | arrived => exact .arrived
  | here inside _ ih => exact .here (keeps.isFolder inside) ih
  | above inside _ ih => exact .above (keeps.isFolder inside) ih
  | into inside notHere notAbove found kind _ ih =>
      obtain ⟨short, found⟩ := find_eq_ok_iff.1 found
      have found := find_eq_ok_iff.2 ⟨short, keeps.kept _ _ found (.inl kind)⟩
      exact .into (keeps.isFolder inside) notHere notAbove found kind ih
  | via inside notHere notAbove found kind _ ih =>
      obtain ⟨short, found⟩ := find_eq_ok_iff.1 found
      have found := find_eq_ok_iff.2 ⟨short, keeps.kept _ _ found (.inr ⟨_, kind⟩)⟩
      exact .via (keeps.isFolder inside) notHere notAbove found kind ih

/-- What a path leads to depends on folders and links alone. -/
theorem locate_itself (located : w.locate .itself path = .ok ending) :
    after.locate .itself path = .ok ending := by
  have fit := fault?_of_locate located
  rcases List.eq_nil_or_concat (Path.components path) with none_ | ⟨front, last, cut⟩
  · rw [locate, fit] at located ⊢
    simp only [none_, walk_eq, walkVia, keeps.home] at located ⊢
    exact located
  · rw [List.concat_eq_append] at cut
    obtain ⟨left, parent, leads, inside, rfl⟩ := (locate_itself_eq_ok_iff fit cut).1 located
    refine (locate_itself_eq_ok_iff fit cut).2 ⟨left, parent, ?_, keeps.isFolder inside, rfl⟩
    rw [keeps.home]
    exact keeps.leads leads

end KeepsWays

/-- A path is at a place, whether or not anything is there.  If it is a link, the path is where
the link is. -/
def IsAt (w : Workdir) (path : List UInt8) (place : Place) : Prop :=
  ∃ ending, w.locate .itself path = .ok ending ∧ ending.place = place

theorem isAt_of_locate (located : w.locate .itself path = .ok (.name folder name slash)) :
    w.IsAt path (folder ++ [name]) := ⟨_, located, rfl⟩

/-- A path is at one place. -/
theorem IsAt.unique {other : Place} (one : w.IsAt path place) (two : w.IsAt path other) :
    place = other := by
  obtain ⟨ending, located, rfl⟩ := one
  obtain ⟨again, same, rfl⟩ := two
  rw [located] at same
  cases same
  rfl

/-- A path is where it was after a change that keeps the ways. -/
theorem KeepsWays.isAt (keeps : w.KeepsWays after) (at_ : w.IsAt path place) :
    after.IsAt path place := by
  obtain ⟨ending, located, same⟩ := at_
  exact ⟨ending, keeps.locate_itself located, same⟩

end Workdir

end AttachService
