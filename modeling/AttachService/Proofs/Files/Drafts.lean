/-
Module: AttachService.Proofs.Files.Drafts
Purpose: Where the draft of a file is, and what making and writing it changes.
Trusted boundary: none
Main exports: OwnedFile.exists_locate_draft, OwnedFile.locate_draft, OwnedFile.ne_draft_place,
  OwnedFile.Unlinked, OwnedFile.Drafted, OwnedFile.drafted_of_create
-/
import AttachService.Files.OwnedFile
import AttachService.Proofs.Files.Places

namespace AttachService

/-!
A draft stands beside the file that it is to become: the front of both paths is the same.  So
making the draft, writing to it and removing it change one place only, which is not that of the
path.  The exception is a link that has the name of the draft, since what is written goes to where
it leads.
-/

namespace OwnedFile

variable {w after : Workdir} {manner : Manner} {path contents : List UInt8} {place folder : Place}
  {name : Name} {ending : Ending}

/-! ### The path of a draft -/

theorem encode_tmp : Utf8.encode ".tmp" = [0x2E, 0x74, 0x6D, 0x70] := by decide

theorem draft_ne_here (name : Name) : draft name ≠ Path.here := by
  intro same
  have short := congrArg List.length same
  simp [draft, encode_tmp, Path.here] at short

theorem draft_ne_above (name : Name) : draft name ≠ Path.above := by
  intro same
  have short := congrArg List.length same
  simp [draft, encode_tmp, Path.above] at short

theorem wantsFolder_draft (path : List UInt8) : Path.wantsFolder (draft path) = false := by
  rw [Path.wantsFolder, draft, encode_tmp, List.getLast?_append_of_ne_nil _ (by simp)]
  decide

/-- A draft is looked for from where its file is. -/
theorem start_draft (folder : Place) (path : List UInt8) :
    Workdir.start folder (draft path) = Workdir.start folder path := by
  have same : Path.isAbsolute (draft path) = Path.isAbsolute path := by
    cases path with
    | nil => decide
    | cons b rest => rfl
  rw [Workdir.start, Workdir.start, same]

/-- The name of a draft is one like any other: it means neither the folder nor the one above. -/
theorem last_draft (folder : Place) (name : Name) (slash : Bool) :
    Ending.last folder (draft name) slash = .name folder (draft name) slash := by
  rw [Ending.last, if_neg (draft_ne_here name), if_neg (draft_ne_above name)]

/-- The components of a path and of its draft. -/
theorem exists_components (path : List UInt8) :
    ∃ front last, Path.components (draft path) = front ++ [draft last]
      ∧ Path.components path = front ++ (if last = [] then [] else [last])
      ∧ (last = [] → path = [] ∨ Path.wantsFolder path = true) :=
  Path.exists_components_append path (by rw [encode_tmp]; simp) (by rw [encode_tmp]; decide)

/-- Whatever a draft is looked up for, it has a name of its own in a folder. -/
theorem exists_locate_draft (located : w.locate manner (draft path) = .ok ending)
    (looked : manner ≠ .itself) :
    ∃ folder name, w.locate .itself (draft path) = .ok (.name folder (draft name) false)
      ∧ (draft name).length ≤ Path.nameBytes := by
  have fit := Workdir.fault?_of_locate located
  obtain ⟨front, name, cut, -⟩ := exists_components path
  rw [Workdir.locate, fit] at located
  simp only [cut] at located
  obtain ⟨left, folder, leads, last⟩ := Workdir.leads_of_walk located
  have inside := Workdir.isFolder_of_walk last (by simp)
  refine ⟨folder, name, ?_, ?_⟩
  · rw [Workdir.locate_itself_eq_ok_iff fit cut]
    exact ⟨left, folder, leads, inside, by rw [last_draft, wantsFolder_draft]⟩
  · rw [Workdir.walk_eq, Workdir.walkVia, if_neg (not_not_intro inside),
      if_neg (draft_ne_here name), if_neg (draft_ne_above name),
      if_neg fun same => looked same.2, wantsFolder_draft, if_neg (by simp)] at last
    by_contra long
    rw [Workdir.find, if_pos (Nat.not_le.1 long)] at last
    cases last

/-- The draft of a file stands beside it. -/
theorem locate_draft (located : w.locate .itself path = .ok (.name folder name false))
    (fit : Path.fault? (draft path) = none) :
    w.locate .itself (draft path) = .ok (.name folder (draft name) false) := by
  obtain ⟨front, left, cut, leads, inside, -, -, unslashed⟩ :=
    Workdir.exists_leads_of_locate located
  obtain ⟨again, last, cutDraft, cutPath, empty⟩ := exists_components path
  have named : last ≠ [] := by
    intro nothing
    rcases empty nothing with rfl | wants
    · simp [Path.components] at cut
    · rw [wants] at unslashed
      cases unslashed
  rw [if_neg named, cut] at cutPath
  obtain ⟨rfl, same⟩ := List.append_inj' cutPath rfl
  cases same
  rw [Workdir.locate_itself_eq_ok_iff fit cutDraft, start_draft]
  exact ⟨left, folder, leads, inside, by rw [last_draft, wantsFolder_draft]⟩

/-- The last step to a draft goes nowhere else. -/
theorem eq_of_walk_draft {links : Nat} {parent : Place} {component : Name}
    (walked : w.walk .itself links parent [draft component] false = .ok (.name folder name false)) :
    folder = parent ∧ name = draft component := by
  rw [Workdir.walk_itself (Workdir.isFolder_of_walk walked (by simp)), last_draft] at walked
  cases walked
  exact ⟨rfl, rfl⟩

theorem ne_concat (place : Place) (name : Name) : place ≠ place ++ [name] := by
  intro same
  have longer := congrArg List.length same
  simp at longer

theorem dropLast_ne_concat (place : Place) (name : Name) : place.dropLast ≠ place ++ [name] := by
  intro same
  have longer := congrArg List.length same
  simp at longer

/-- A way whose last component is another one does not end at this entry. -/
theorem place_last_ne (parent : Place) {component other : Name} (apart : component ≠ other)
    (slash : Bool) : (Ending.last parent component slash).place ≠ parent ++ [other] := by
  unfold Ending.last
  split
  · exact ne_concat parent other
  · split
    · exact dropLast_ne_concat parent other
    · intro same
      exact apart (List.singleton_inj.1 (List.append_cancel_left same))

/-- A component that the draft stands inside of, because there is a slash after it, does not end
where the draft is, unless a link is there. -/
theorem place_last_ne_of_walk_inside {links : Nat} {parent : Place} {component : Name}
    (inside : w.isFolder parent = true)
    (blind : ∀ entry, w.entry? (folder ++ [name]) = some entry → ¬ entry.IsWay)
    (walked : w.walk .itself links parent [component, draft []] false
      = .ok (.name folder name false)) (slash : Bool) :
    (Ending.last parent component slash).place ≠ folder ++ [name] := by
  unfold Ending.last
  split
  · next here =>
      rw [here, Workdir.walk_here inside] at walked
      obtain ⟨rfl, rfl⟩ := eq_of_walk_draft walked
      exact ne_concat _ _
  · next notHere =>
      split
      · next above =>
          rw [above, Workdir.walk_above inside] at walked
          obtain ⟨rfl, rfl⟩ := eq_of_walk_draft walked
          exact ne_concat _ _
      · next notAbove =>
          rw [Workdir.walk_cons inside notHere notAbove (by simp)] at walked
          split at walked
          · cases walked
          · cases walked
          · next entry found =>
              split at walked
              · next target kind =>
                  -- Behind a link the draft may be anywhere, but not where the link is.
                  intro same
                  refine blind entry ?_ (.inr ⟨target, kind⟩)
                  rw [← same]
                  exact (Workdir.find_eq_ok_iff.1 found).2
              · obtain ⟨rfl, rfl⟩ := eq_of_walk_draft walked
                exact ne_concat _ _

/-- A path is never where its draft is, unless it is a link. -/
theorem ne_draft_place (located : w.locate .itself (draft path) = .ok (.name folder name false))
    (blind : ∀ entry, w.entry? (folder ++ [name]) = some entry → ¬ entry.IsWay)
    (at_ : w.IsAt path place) : place ≠ folder ++ [name] := by
  obtain ⟨ending, whole, rfl⟩ := at_
  have fit := Workdir.fault?_of_locate whole
  obtain ⟨front, last, cutDraft, cutPath, -⟩ := exists_components path
  rw [Workdir.locate, Workdir.fault?_of_locate located] at located
  simp only [cutDraft, wantsFolder_draft, start_draft] at located
  by_cases named : last = []
  · -- The path ends in a slash, and its draft is in the folder that the path leads to.
    subst named
    rw [if_pos rfl, List.append_nil] at cutPath
    rcases List.eq_nil_or_concat front with rfl | ⟨front, component, rfl⟩
    · obtain ⟨rfl, rfl⟩ := eq_of_walk_draft located
      rw [Workdir.locate, fit] at whole
      simp only [cutPath, Workdir.walk_eq, Workdir.walkVia] at whole
      cases whole
      exact ne_concat _ _
    · rw [List.concat_eq_append] at cutPath located
      obtain ⟨left, parent, leads, inside, rfl⟩ :=
        (Workdir.locate_itself_eq_ok_iff fit cutPath).1 whole
      rw [List.append_assoc, leads.walk _ (by simp)] at located
      exact place_last_ne_of_walk_inside inside blind located _
  · -- Both have the same front, and differ in the last component.
    rw [if_neg named] at cutPath
    obtain ⟨left, parent, leads, inside, rfl⟩ :=
      (Workdir.locate_itself_eq_ok_iff fit cutPath).1 whole
    rw [leads.walk _ (by simp)] at located
    obtain ⟨rfl, rfl⟩ := eq_of_walk_draft located
    refine place_last_ne _ ?_ _
    intro same
    have longer := congrArg List.length same
    simp [draft, encode_tmp] at longer

/-! ### Making and writing a draft -/

/-- No link has the name of the draft. -/
def Unlinked (w : Workdir) (path : List UInt8) : Prop :=
  ∀ place entry target, w.IsAt (draft path) place → w.entry? place = some entry →
    entry.kind ≠ .link target

/-- The tree with the draft of a path at a place of its own, where there was nothing or a file,
and with so much written to it. -/
structure Drafted (w : Workdir) (path : List UInt8) (folder : Place) (name : Name)
    (contents : List UInt8) (after : Workdir) : Prop where
  located : w.locate .itself (draft path) = .ok (.name folder name false)
  short : name.length ≤ Path.nameBytes
  blind : ∀ entry, w.entry? (folder ++ [name]) = some entry → ¬ entry.IsWay
  changes : w.Changes (folder ++ [name])
    (some (.written (w.entry? (folder ++ [name])) contents)) after

/-- A draft that could be created is an empty file of its own. -/
theorem drafted_of_create {made : Workdir} (unlinked : Unlinked w path)
    (created : w.create (draft path) = .ok (place, made)) :
    ∃ folder name, place = folder ++ [name] ∧ Drafted w path folder name [] made := by
  obtain ⟨parent, child, slash, follows, rfl, blind, changes⟩ := Workdir.create_eq_ok created
  obtain ⟨folder, name, located, short⟩ := exists_locate_draft follows (by decide)
  have plain : ∀ entry, w.entry? (folder ++ [draft name]) = some entry →
      ∀ target, entry.kind ≠ .link target := fun entry found target =>
    unlinked _ entry target (Workdir.isAt_of_locate located) found
  have same := Workdir.locate_of_itself located short plain .make fun _ => rfl
  rw [follows] at same
  cases same
  exact ⟨_, _, rfl, located, short, blind, changes⟩

namespace Drafted

variable {bytes : List UInt8} (drafted : Drafted w path folder name contents after)

include drafted

/-- Writing to a draft makes a draft that holds as much. -/
theorem append (more : List UInt8) (empty : contents = []) :
    Drafted w path folder name more (after.append (folder ++ [name]) more) := by
  subst empty
  exact ⟨drafted.located, drafted.short, drafted.blind,
    Workdir.changes_append drafted.changes more⟩

theorem isAt : w.IsAt (draft path) (folder ++ [name]) := Workdir.isAt_of_locate drafted.located

/-- No way leads through a draft, so all ways stay as they are. -/
theorem keepsWays : w.KeepsWays after := drafted.changes.keepsWays drafted.blind

/-- Whatever ways there are with the draft were there without it. -/
theorem keepsWays_back : after.KeepsWays w :=
  drafted.changes.keepsWays_back (Workdir.not_isWay_of_written _ _)

/-- The path is somewhere else. -/
theorem ne_place (at_ : w.IsAt path place) : place ≠ folder ++ [name] :=
  ne_draft_place drafted.located drafted.blind at_

/-- A draft that is not to be kept can be removed, unless it was a file that cannot. -/
theorem remove :
    after.remove (draft path) =
      match (w.entry? (folder ++ [name])).bind (·.removeFault) with
      | some fault => .error fault
      | none => .ok (after.erase (folder ++ [name])) := by
  have located := drafted.keepsWays.locate_itself drafted.located
  have found := Workdir.find_eq_ok_iff.2 ⟨drafted.short, drafted.changes.self⟩
  simp only [Workdir.remove, located, found, Entry.written]
  cases (w.entry? (folder ++ [name])).bind (·.removeFault) <;> rfl

end Drafted

end OwnedFile

end AttachService
