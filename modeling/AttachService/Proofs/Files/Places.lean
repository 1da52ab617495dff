/-
Module: AttachService.Proofs.Files.Places
Purpose: What each operation does to the places of a tree, whatever the path it is given.
Trusted boundary: none
Main exports: Workdir.Changes, Workdir.Changes.keepsWays, Entry.written, Workdir.create_eq_ok,
  Workdir.changes_append, Workdir.remove_eq_ok_iff_places, Workdir.rename_eq_ok
-/
import AttachService.Proofs.Files.Lookups

namespace AttachService

/-- A file with contents in place of what was there.  What reading or removing it fails with
stays. -/
def Entry.written (was : Option Entry) (contents : List UInt8) : Entry where
  kind := .file contents
  readFault := was.bind (·.readFault)
  removeFault := was.bind (·.removeFault)

namespace Workdir

variable {w between after : Workdir} {place other folder : Place} {name : Name}
  {path old new : List UInt8} {entry : Entry} {now : Option Entry}

/-! ### One place changes -/

/-- The tree after one place has been given an entry, or has lost the one it had.  Nothing else is
different. -/
structure Changes (w : Workdir) (place : Place) (now : Option Entry) (after : Workdir) : Prop where
  home : after.home = w.home
  self : after.entry? place = now
  others : ∀ other, other ≠ place → after.entry? other = w.entry? other

/-- What is put at a place changes nothing about the others. -/
theorem changes_put (outside : ¬ place.isPrefixOf w.home) (entry : Entry) :
    w.Changes place (some entry) (w.put place entry) where
  home := rfl
  self := by rw [entryAt_put outside, if_pos rfl]
  others other apart := by rw [entryAt_put outside, if_neg apart]

/-- What is taken from a place changes nothing about the others. -/
theorem changes_erase (outside : ¬ place.isPrefixOf w.home) :
    w.Changes place none (w.erase place) where
  home := rfl
  self := by rw [entryAt_erase outside, if_pos rfl]
  others other apart := by rw [entryAt_erase outside, if_neg apart]

/-- Whoever changes a place twice might have made the second change at once. -/
theorem Changes.again {first : Option Entry} (one : w.Changes place first between)
    (two : between.Changes place now after) : w.Changes place now after where
  home := two.home.trans one.home
  self := two.self
  others other apart := (two.others other apart).trans (one.others other apart)

/-- Ways are kept where there was none. -/
theorem Changes.keepsWays (changes : w.Changes place now after)
    (blind : ∀ entry, w.entry? place = some entry → ¬ entry.IsWay) : w.KeepsWays after where
  home := changes.home
  kept other entry found way := by
    have apart : other ≠ place := by
      rintro rfl
      exact blind entry found way
    rw [changes.others other apart, found]

/-- No way is new where there is none now. -/
theorem Changes.keepsWays_back (changes : w.Changes place now after)
    (blind : ∀ entry, now = some entry → ¬ entry.IsWay) : after.KeepsWays w where
  home := changes.home.symm
  kept other entry found way := by
    have apart : other ≠ place := by
      rintro rfl
      exact blind entry (changes.self.symm.trans found) way
    rw [← changes.others other apart, found]

/-- No path leads on from a file. -/
theorem not_isWay_of_written (was : Option Entry) (contents : List UInt8) :
    ∀ entry, some (Entry.written was contents) = some entry → ¬ entry.IsWay := by
  rintro entry ⟨⟩
  rintro (folder | ⟨target, link⟩)
  · cases folder
  · cases link

/-- The folder to work in, and those above it, are folders for good. -/
theorem not_isPrefixOf_home_of_not_isFolder (room : w.isFolder place = false) :
    ¬ place.isPrefixOf w.home := by
  intro above
  unfold isFolder entry? at room
  rw [if_pos above] at room
  cases room

/-- The home folder is in folders only. -/
theorem not_isPrefixOf_home_of_ne_folder (found : w.entry? place = some entry)
    (kind : entry.kind ≠ .folder) : ¬ place.isPrefixOf w.home := by
  apply not_isPrefixOf_home_of_not_isFolder
  rw [isFolder, found]
  simpa using kind

/-- The home folder is in nothing that does not exist. -/
theorem not_isPrefixOf_home_of_none (missing : w.entry? place = none) :
    ¬ place.isPrefixOf w.home := by
  apply not_isPrefixOf_home_of_not_isFolder
  rw [isFolder, missing]
  rfl

/-! ### Making and writing -/

/-- What is made is an empty file, where nothing or a file was. -/
theorem create_eq_ok (created : w.create path = .ok (place, after)) :
    ∃ folder name slash, w.locate .make path = .ok (.name folder name slash)
      ∧ place = folder ++ [name] ∧ (∀ entry, w.entry? place = some entry → ¬ entry.IsWay)
      ∧ w.Changes place (some (.written (w.entry? place) [])) after := by
  unfold create at created
  split at created
  · cases created
  · cases created
  · next folder name slash located =>
      refine ⟨folder, name, slash, located, ?_⟩
      simp only at created
      split at created
      · next missing =>
          cases created
          refine ⟨rfl, ?_, ?_⟩
          · rw [missing]
            rintro entry ⟨⟩
          · rw [missing]
            exact changes_put (not_isPrefixOf_home_of_none missing) _
      · next entry found =>
          obtain ⟨kind, readFault, removeFault⟩ := entry
          cases kind with
          | file contents =>
              cases created
              refine ⟨rfl, ?_, ?_⟩
              · rw [found]
                exact not_isWay_of_written (some ⟨.file contents, readFault, removeFault⟩) contents
              · rw [found]
                exact changes_put (not_isPrefixOf_home_of_ne_folder found (by simp)) _
          | folder | link target | socket listener => cases created

/-- What is written to a new file is all that is in it. -/
theorem changes_append {was : Option Entry}
    (made : w.Changes place (some (.written was [])) between) (bytes : List UInt8) :
    w.Changes place (some (.written was bytes)) (between.append place bytes) := by
  have outside : ¬ place.isPrefixOf between.home :=
    not_isPrefixOf_home_of_ne_folder made.self (by simp [Entry.written])
  have put := changes_put outside (.written was bytes)
  refine made.again ?_
  rw [append, made.self]
  exact put

/-! ### Removing and renaming -/

/-- What can be removed has a name without a slash after it, and is no folder. -/
theorem remove_eq_ok_iff_places :
    w.remove path = .ok after ↔ ∃ folder name entry,
      w.locate .itself path = .ok (.name folder name false) ∧ name.length ≤ Path.nameBytes
        ∧ w.entry? (folder ++ [name]) = some entry ∧ entry.kind ≠ .folder
        ∧ entry.removeFault = none ∧ after = w.erase (folder ++ [name]) := by
  constructor
  · intro removed
    unfold remove at removed
    split at removed
    · cases removed
    · cases removed
    · next folder name slash located =>
        split at removed
        · cases removed
        · cases removed
        · next entry found =>
            obtain ⟨short, found⟩ := find_eq_ok_iff.1 found
            split at removed
            · cases removed
            · next kind =>
                split at removed
                · cases removed
                · next unslashed =>
                    split at removed
                    · cases removed
                    · next removable =>
                        cases removed
                        rw [Bool.not_eq_true] at unslashed
                        subst unslashed
                        exact ⟨folder, name, entry, located, short, found, kind, removable, rfl⟩
  · rintro ⟨folder, name, entry, located, short, found, kind, removable, rfl⟩
    have found := find_eq_ok_iff.2 ⟨short, found⟩
    simp only [remove, located, found, if_neg kind, removable]
    rfl

/-- What gets a new name takes the place of what had it, and leaves its own. -/
theorem rename_eq_ok (renamed : w.rename old new = .ok after) :
    ∃ oldFolder oldName newFolder newName entry between,
      w.locate .itself old = .ok (.name oldFolder oldName false)
        ∧ w.locate .itself new = .ok (.name newFolder newName false)
        ∧ newName.length ≤ Path.nameBytes
        ∧ w.entry? (oldFolder ++ [oldName]) = some entry
        ∧ w.isFolder (newFolder ++ [newName]) = false
        ∧ w.Changes (oldFolder ++ [oldName]) none between
        ∧ between.Changes (newFolder ++ [newName]) (some entry) after := by
  unfold rename at renamed
  split at renamed
  · cases renamed
  · split at renamed
    · cases renamed
    · cases renamed
    · next oldFolder oldName oldSlash newFolder newName newSlash oldLocated newLocated =>
        split at renamed
        · cases renamed
        · cases renamed
        · cases renamed
        · next entry there oldFound newFound =>
            obtain ⟨-, oldFound⟩ := find_eq_ok_iff.1 oldFound
            obtain ⟨short, -⟩ := find_eq_ok_iff.1 newFound
            split at renamed
            · cases renamed
            · next slashes =>
                unfold move at renamed
                split at renamed
                · cases renamed
                · next kind =>
                    split at renamed
                    · cases renamed
                    · next room =>
                        cases renamed
                        rw [Bool.not_eq_true] at room
                        have unslashed : oldSlash = false ∧ newSlash = false := by
                          simpa [kind] using slashes
                        obtain ⟨rfl, rfl⟩ := unslashed
                        have cleared :=
                          changes_erase (not_isPrefixOf_home_of_ne_folder oldFound kind)
                        refine ⟨oldFolder, oldName, newFolder, newName, entry, _, oldLocated,
                          newLocated, short, oldFound, room, cleared, changes_put ?_ entry⟩
                        rw [cleared.home]
                        exact not_isPrefixOf_home_of_not_isFolder room
    · cases renamed

end Workdir

end AttachService
