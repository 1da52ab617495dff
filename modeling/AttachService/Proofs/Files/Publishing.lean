/-
Module: AttachService.Proofs.Files.Publishing
Purpose: A file is published as a whole or not at all, and what is left when it is not.
Trusted boundary: none
Main exports: OwnedFile.Setback, OwnedFile.Setback.Occurs, OwnedFile.Fails, OwnedFile.Discards,
  OwnedFile.Direct, OwnedFile.Published, OwnedFile.whole_or_not_at_all
-/
import AttachService.Proofs.Files.Drafts

namespace AttachService

/-!
Whatever goes wrong, what is at the path stays as it was.  But only a draft that cannot be given
its name is removed.  One that was not written in full, or could not be made durable, stays behind.
-/

namespace OwnedFile

variable {w after : Workdir} {path contents : List UInt8} {mishaps : Mishaps} {fault : Fault}
  {place aside folder : Place} {name : Name}

/-! ### What can go wrong -/

/-- The step at which publishing fails. -/
inductive Setback where
  | creating
  /-- So many bytes were written before. -/
  | writing (count : Nat)
  | syncing
  | naming
deriving Repr, DecidableEq

/-- A step fails, and none of those before it. -/
def Setback.Occurs (mishaps : Mishaps) (w : Workdir) (path contents : List UInt8) (fault : Fault) :
    Setback → Prop
  | .creating =>
      mishaps.create = some fault
        ∨ mishaps.create = none ∧ w.create (draft path) = .error fault
  | .writing count =>
      mishaps.create = none ∧ mishaps.write = some (count, fault)
        ∧ ∃ made, w.create (draft path) = .ok made
  | .syncing =>
      mishaps.create = none ∧ mishaps.write = none ∧ mishaps.sync = some fault
        ∧ ∃ made, w.create (draft path) = .ok made
  | .naming =>
      mishaps.create = none ∧ mishaps.write = none ∧ mishaps.sync = none
        ∧ ∃ place made, w.create (draft path) = .ok (place, made)
          ∧ (mishaps.rename = some fault
            ∨ mishaps.rename = none
              ∧ (made.append place contents).rename (draft path) path = .error fault)

/-- What is at the name of the draft afterwards, given what was there before.  The last step
clears up behind itself, as far as it can. -/
def Setback.leaves (contents : List UInt8) (was : Option Entry) : Setback → Option Entry
  | .creating => was
  | .writing count => some (.written was (contents.take count))
  | .syncing => some (.written was contents)
  | .naming =>
      if (was.bind (·.removeFault)).isSome then some (.written was contents) else none

/-- The tree after an attempt to publish that failed. -/
structure Fails (setback : Setback) (w : Workdir) (path contents : List UInt8) (after : Workdir) :
    Prop where
  /-- What was at the path is there as it was, and nothing if nothing was. -/
  kept : ∀ place, w.IsAt path place → after.entry? place = w.entry? place
  /-- Every path is where it was. -/
  ways : ∀ other place, after.IsAt other place ↔ w.IsAt other place
  others : ∀ place, ¬ w.IsAt (draft path) place → after.entry? place = w.entry? place
  left : ∀ place, w.IsAt (draft path) place →
    after.entry? place = setback.leaves contents (w.entry? place)
  somewhere : setback ≠ .creating → ∃ place, w.IsAt (draft path) place

/-- If there is no draft yet, nothing has changed. -/
theorem fails_creating (w : Workdir) (path contents : List UInt8) :
    Fails .creating w path contents w where
  kept _ _ := rfl
  ways _ _ := .rfl
  others _ _ := rfl
  left _ _ := rfl
  somewhere later := absurd rfl later

/-- Where the draft alone is different, all else is as it was. -/
theorem fails_of_changes {setback : Setback} {bytes : List UInt8} {drafted : Workdir}
    (made : Drafted w path folder name bytes drafted)
    (changes : w.Changes (folder ++ [name])
      (setback.leaves contents (w.entry? (folder ++ [name]))) after)
    (blind : ∀ entry, setback.leaves contents (w.entry? (folder ++ [name])) = some entry →
      ¬ entry.IsWay) : Fails setback w path contents after where
  kept place at_ := changes.others place (made.ne_place at_)
  ways other place :=
    ⟨(changes.keepsWays_back blind).isAt, (changes.keepsWays made.blind).isAt⟩
  others place elsewhere := by
    apply changes.others
    rintro rfl
    exact elsewhere made.isAt
  left place at_ := by
    rw [at_.unique made.isAt]
    exact changes.self
  somewhere _ := ⟨_, made.isAt⟩

/-! ### What is published -/

/-- The tree after a file was given up. -/
structure Discards (path : List UInt8) (later after : Workdir) : Prop where
  /-- What is at the path goes, unless it is a folder or cannot be removed. -/
  gone : ∀ place entry, later.IsAt path place → later.entry? place = some entry →
    entry.kind ≠ .folder → entry.removeFault = none → after.entry? place = none
  others : ∀ place, ¬ later.IsAt path place → after.entry? place = later.entry? place
  /-- If nothing is there any more, nothing happens. -/
  idle : (∀ place, later.IsAt path place → later.entry? place = none) → after = later

/-- The path does not lead through a link that is at its end and has to make room. -/
def Direct (w : Workdir) (path : List UInt8) : Prop :=
  ∀ place entry target, w.IsAt path place → w.entry? place = some entry →
    entry.kind = .link target → (w.erase place).locate .itself path = w.locate .itself path

/-- The tree after a file was published at a place, with its draft at another. -/
structure Published (w : Workdir) (path contents : List UInt8) (place aside : Place)
    (after : Workdir) : Prop where
  isAt : w.IsAt path place
  draftIsAt : w.IsAt (draft path) aside
  /-- A file with exactly the contents, in place of whatever was there. -/
  holds : after.entry? place = some (.written (w.entry? aside) contents)
  cleared : after.entry? aside = none
  others : ∀ other, other ≠ place → other ≠ aside → after.entry? other = w.entry? other
  reaches : Direct w path → after.reach path = .ok (.written (w.entry? aside) contents)
  /-- A draft that was left over may be one that cannot be read. -/
  reads : Direct w path → (w.entry? aside).bind (·.readFault) = none →
    after.read path = .ok contents
  undrafted : Direct w path → after.exists? (draft path) = .ok false
  /-- Whatever becomes of the tree, giving the file up concerns its path alone. -/
  discards : ∀ later, Discards path later ((adopt path).discard later)

/-- A path that ends at a name does so in every tree, if it leads anywhere. -/
theorem locate_eq_name {later : Workdir} {ending : Ending}
    (located : w.locate .itself path = .ok (.name folder name false))
    (leads : later.locate .itself path = .ok ending) :
    ∃ parent, ending = .name parent name false := by
  obtain ⟨front, left, cut, -, -, notHere, notAbove, unslashed⟩ :=
    Workdir.exists_leads_of_locate located
  obtain ⟨left, parent, -, -, rfl⟩ :=
    (Workdir.locate_itself_eq_ok_iff (Workdir.fault?_of_locate leads) cut).1 leads
  refine ⟨parent, ?_⟩
  rw [Ending.last, if_neg notHere, if_neg notAbove, unslashed]

/-- Giving up the file of a path that ends at a name. -/
theorem discards (located : w.locate .itself path = .ok (.name folder name false))
    (short : name.length ≤ Path.nameBytes) (later : Workdir) :
    Discards path later ((adopt path).discard later) := by
  unfold discard adopt
  cases removed : later.remove path with
  | ok after =>
      obtain ⟨parent, child, entry, leads, -, found, kind, -, rfl⟩ :=
        Workdir.remove_eq_ok_iff_places.1 removed
      have changes :=
        Workdir.changes_erase (Workdir.not_isPrefixOf_home_of_ne_folder found kind)
      have at_ := Workdir.isAt_of_locate leads
      exact {
        gone := fun place _ is _ _ _ => by
          rw [is.unique at_]
          exact changes.self
        others := fun place elsewhere => changes.others place fun same => elsewhere (same ▸ at_)
        idle := fun nothing => by
          rw [nothing _ at_] at found
          cases found }
  | error fault =>
      exact {
        gone := by
          rintro place entry ⟨ending, leads, rfl⟩ found kind removable
          obtain ⟨parent, rfl⟩ := locate_eq_name located leads
          have succeeds := Workdir.remove_eq_ok_iff_places.2
            ⟨parent, name, entry, leads, short, found, kind, removable, rfl⟩
          rw [removed] at succeeds
          cases succeeds
        others := fun _ _ => rfl
        idle := fun _ => rfl }

/-! ### From the draft to the file -/

/-- The tree after a draft was given its name. -/
structure Placed (w : Workdir) (path contents : List UInt8) (folder : Place) (name : Name)
    (after : Workdir) : Prop where
  located : w.locate .itself path = .ok (.name folder name false)
  short : (draft name).length ≤ Path.nameBytes
  fit : Path.fault? (draft path) = none
  room : w.isFolder (folder ++ [name]) = false
  blind : ∀ entry, w.entry? (folder ++ [draft name]) = some entry → ¬ entry.IsWay
  home : after.home = w.home
  holds : after.entry? (folder ++ [name])
    = some (.written (w.entry? (folder ++ [draft name])) contents)
  cleared : after.entry? (folder ++ [draft name]) = none
  others : ∀ other, other ≠ folder ++ [name] → other ≠ folder ++ [draft name] →
    after.entry? other = w.entry? other

/-- A draft that was renamed to its path is the file there, and is gone from its own place. -/
theorem placed_of_rename {drafted : Workdir} (made : Drafted w path folder name contents drafted)
    (renamed : drafted.rename (draft path) path = .ok after) :
    ∃ child, name = draft child ∧ Placed w path contents folder child after := by
  obtain ⟨_, _, parent, child, entry, between, fromDraft, there, -, found, room, cleared, placed⟩ :=
    Workdir.rename_eq_ok renamed
  rw [made.keepsWays.locate_itself made.located] at fromDraft
  cases fromDraft
  rw [made.changes.self] at found
  cases found
  have fit := Workdir.fault?_of_locate made.located
  have located := made.keepsWays_back.locate_itself there
  have apart := made.ne_place (Workdir.isAt_of_locate located)
  have beside := locate_draft located fit
  rw [made.located] at beside
  cases beside
  refine ⟨child, rfl, located, made.short, fit, ?_, made.blind, ?_, placed.self, ?_, ?_⟩
  · rw [Workdir.isFolder, ← made.changes.others _ apart]
    exact room
  · rw [placed.home, cleared.home, made.changes.home]
  · rw [placed.others _ (Ne.symm apart), cleared.self]
  · intro other notPlace notAside
    rw [placed.others other notPlace, cleared.others other notAside,
      made.changes.others other notAside]

namespace Placed

variable (placed : Placed w path contents folder name after)

include placed

theorem isAt : w.IsAt path (folder ++ [name]) := Workdir.isAt_of_locate placed.located

theorem draftIsAt : w.IsAt (draft path) (folder ++ [draft name]) :=
  Workdir.isAt_of_locate (locate_draft placed.located placed.fit)

/-- To make room for the file changes nothing but its own place. -/
theorem changes_erase : w.Changes (folder ++ [name]) none (w.erase (folder ++ [name])) :=
  Workdir.changes_erase (Workdir.not_isPrefixOf_home_of_not_isFolder placed.room)

/-- All ways are kept but a link that had to make room. -/
theorem keepsWays : (w.erase (folder ++ [name])).KeepsWays after where
  home := placed.home
  kept other entry found way := by
    have erased := placed.changes_erase
    have notPlace : other ≠ folder ++ [name] := by
      rintro rfl
      rw [erased.self] at found
      cases found
    rw [erased.others other notPlace] at found
    have notAside : other ≠ folder ++ [draft name] := by
      rintro rfl
      exact placed.blind entry found way
    rw [placed.others other notPlace notAside, found]

/-- The path leads to the file, unless it needed a link that had to make room. -/
theorem locate (direct : Direct w path) :
    after.locate .itself path = .ok (.name folder name false) := by
  apply placed.keepsWays.locate_itself
  by_cases linked : ∃ entry target,
      w.entry? (folder ++ [name]) = some entry ∧ entry.kind = .link target
  · obtain ⟨entry, target, found, kind⟩ := linked
    rw [direct _ entry target placed.isAt found kind, placed.located]
  · refine (placed.changes_erase.keepsWays ?_).locate_itself placed.located
    rintro entry found (kind | ⟨target, kind⟩)
    · have room := placed.room
      rw [Workdir.isFolder_iff.2 ⟨entry, found, kind⟩] at room
      cases room
    · exact linked ⟨entry, target, found, kind⟩

/-- The name of the file is not too long, since that of its draft was not. -/
theorem short_name : name.length ≤ Path.nameBytes := by
  have short := placed.short
  rw [draft, List.length_append] at short
  omega

/-- Whoever follows the path reaches the file, unless there was a link that has made room for
it. -/
theorem reach (direct : Direct w path) :
    after.reach path = .ok (.written (w.entry? (folder ++ [draft name])) contents) := by
  have plain : ∀ entry, after.entry? (folder ++ [name]) = some entry →
      ∀ target, entry.kind ≠ .link target := by
    intro entry found target link
    rw [placed.holds] at found
    cases found
    cases link
  have follows := Workdir.locate_of_itself (placed.locate direct) placed.short_name plain .follow
    fun _ => rfl
  simp [Workdir.reach, follows, placed.holds]

/-- Nothing has the name of the draft any more. -/
theorem undrafted (direct : Direct w path) : after.exists? (draft path) = .ok false := by
  have plain : ∀ entry, after.entry? (folder ++ [draft name]) = some entry →
      ∀ target, entry.kind ≠ .link target := by
    intro entry found
    rw [placed.cleared] at found
    cases found
  have follows := Workdir.locate_of_itself (locate_draft (placed.locate direct) placed.fit)
    placed.short plain .follow fun _ => rfl
  simp [Workdir.exists?, Workdir.reach, follows, placed.cleared]

/-- All that is said of a published file follows from where it was put. -/
theorem published :
    Published w path contents (folder ++ [name]) (folder ++ [draft name]) after where
  isAt := placed.isAt
  draftIsAt := placed.draftIsAt
  holds := placed.holds
  cleared := placed.cleared
  others := placed.others
  reaches := placed.reach
  reads direct readable := by
    rw [Workdir.read, placed.reach direct]
    simp only [Entry.written, readable]
  undrafted := placed.undrafted
  discards := discards placed.located placed.short_name

end Placed

/-! ### Publishing -/

/-- A draft that does not get its name is removed, if it can be. -/
theorem promote_of_refused {mishap : Option Fault} {drafted : Workdir}
    (refused : mishap = some fault
      ∨ mishap = none ∧ drafted.rename (draft path) path = .error fault) :
    promote mishap drafted path
      = (.error fault, (drafted.remove (draft path)).toOption.getD drafted) := by
  rcases refused with rfl | ⟨rfl, refused⟩
  · simp only [promote]
    cases drafted.remove (draft path) <;> rfl
  · simp only [promote, refused]
    cases drafted.remove (draft path) <;> rfl

/-- A draft that is removed leaves the tree as it was, and one that cannot be removed stays. -/
theorem fails_naming {drafted : Workdir}
    (made : Drafted w path folder name contents drafted) (mishap : Option Fault)
    (refused : mishap = some fault
      ∨ mishap = none ∧ drafted.rename (draft path) path = .error fault) :
    ∃ after, promote mishap drafted path = (.error fault, after)
      ∧ Fails .naming w path contents after := by
  rw [promote_of_refused refused, made.remove]
  cases stuck : (w.entry? (folder ++ [name])).bind (·.removeFault) with
  | some kept =>
      refine ⟨drafted, rfl, fails_of_changes made ?_ ?_⟩
      · rw [Setback.leaves, stuck]
        exact made.changes
      · rw [Setback.leaves, stuck]
        exact Workdir.not_isWay_of_written _ _
  | none =>
      have outside := Workdir.not_isPrefixOf_home_of_ne_folder made.changes.self
        (by simp [Entry.written])
      refine ⟨_, rfl, fails_of_changes made ?_ ?_⟩
      · rw [Setback.leaves, stuck]
        exact made.changes.again (Workdir.changes_erase outside)
      · rw [Setback.leaves, stuck]
        rintro entry ⟨⟩

/-- An attempt ends at the first step that fails, and leaves what there is by then. -/
theorem publish_of_setback (unlinked : Unlinked w path) {setback : Setback}
    (occurs : setback.Occurs mishaps w path contents fault) :
    ∃ after, publish mishaps w path contents = (.error fault, after)
      ∧ Fails setback w path contents after := by
  cases setback with
  | creating =>
      refine ⟨w, ?_, fails_creating w path contents⟩
      rcases occurs with creates | ⟨creates, refused⟩
      · simp only [publish, creates]
      · simp only [publish, creates, refused]
  | writing count =>
      obtain ⟨creates, writes, ⟨place, made⟩, created⟩ := occurs
      obtain ⟨folder, name, rfl, drafted⟩ := drafted_of_create unlinked created
      refine ⟨made.append (folder ++ [name]) (contents.take count), ?_, ?_⟩
      · simp only [publish, creates, created, writes]
      · have written := drafted.append (contents.take count) rfl
        exact fails_of_changes written written.changes (Workdir.not_isWay_of_written _ _)
  | syncing =>
      obtain ⟨creates, writes, syncs, ⟨place, made⟩, created⟩ := occurs
      obtain ⟨folder, name, rfl, drafted⟩ := drafted_of_create unlinked created
      refine ⟨made.append (folder ++ [name]) contents, ?_, ?_⟩
      · simp only [publish, creates, created, writes, syncs]
      · have written := drafted.append contents rfl
        exact fails_of_changes written written.changes (Workdir.not_isWay_of_written _ _)
  | naming =>
      obtain ⟨creates, writes, syncs, place, made, created, refused⟩ := occurs
      obtain ⟨folder, name, rfl, drafted⟩ := drafted_of_create unlinked created
      have written := drafted.append contents rfl
      obtain ⟨after, promoted, fails⟩ := fails_naming written mishaps.rename refused
      refine ⟨after, ?_, fails⟩
      simp only [publish, creates, created, writes, syncs, promoted]

/-- An attempt of which no step fails comes to its end. -/
theorem publish_of_no_setback (unlinked : Unlinked w path)
    (smooth : ∀ (setback : Setback) (fault : Fault),
      ¬ setback.Occurs mishaps w path contents fault) :
    ∃ after place aside, publish mishaps w path contents = (.ok ⟨path⟩, after)
      ∧ Published w path contents place aside after := by
  have creates : mishaps.create = none := Option.eq_none_iff_forall_ne_some.2 fun fault creates =>
    smooth .creating fault (.inl creates)
  cases created : w.create (draft path) with
  | error fault => exact absurd (.inr ⟨creates, created⟩) (smooth .creating fault)
  | ok made =>
      have writes : mishaps.write = none :=
        Option.eq_none_iff_forall_ne_some.2 fun ⟨count, fault⟩ writes =>
          smooth (.writing count) fault ⟨creates, writes, made, created⟩
      have syncs : mishaps.sync = none := Option.eq_none_iff_forall_ne_some.2 fun fault syncs =>
        smooth .syncing fault ⟨creates, writes, syncs, made, created⟩
      obtain ⟨place, made⟩ := made
      obtain ⟨folder, name, rfl, drafted⟩ := drafted_of_create unlinked created
      have written := drafted.append contents rfl
      have named := fun fault refused =>
        smooth .naming fault ⟨creates, writes, syncs, _, made, created, refused⟩
      have renames : mishaps.rename = none :=
        Option.eq_none_iff_forall_ne_some.2 fun fault renames => named fault (.inl renames)
      cases renamed : (made.append (folder ++ [name]) contents).rename (draft path) path with
      | error fault => exact absurd (.inr ⟨renames, renamed⟩) (named fault)
      | ok after =>
          obtain ⟨child, rfl, placed⟩ := placed_of_rename written renamed
          refine ⟨after, _, _, ?_, placed.published⟩
          simp only [publish, creates, created, writes, syncs, promote, renames, renamed]

/-- If a step fails, its fault comes back and nothing was done but to the name of the draft, where
only the last step leaves nothing.  If none fails, there is a file with the contents at the path,
and nothing else is different. -/
theorem whole_or_not_at_all (unlinked : Unlinked w path) (mishaps : Mishaps)
    (contents : List UInt8) :
    (∀ (setback : Setback) (fault : Fault), setback.Occurs mishaps w path contents fault →
        ∃ after, publish mishaps w path contents = (.error fault, after)
          ∧ Fails setback w path contents after)
      ∧ ((∀ (setback : Setback) (fault : Fault),
          ¬ setback.Occurs mishaps w path contents fault) →
        ∃ after place aside, publish mishaps w path contents = (.ok ⟨path⟩, after)
          ∧ Published w path contents place aside after) :=
  ⟨fun _ _ occurs => publish_of_setback unlinked occurs, publish_of_no_setback unlinked⟩

/-- A folder that is reached through a link, with a file and a draft that was left over. -/
def linkedFolder : Workdir where
  home := [[0x77]]
  entries := [
    ([[0x77], [0x64]], { kind := .folder }),
    ([[0x77], [0x6C]], { kind := .link [0x64] }),
    ([[0x77], [0x64], [0x66]], { kind := .file (Utf8.encode "old") }),
    ([[0x77], [0x64], Utf8.encode "f.tmp"], { kind := .file (Utf8.encode "left over") })]

/-- Through a link, over a file and a draft that were there before: once with too little storage,
and once without. -/
theorem whole_or_not_at_all_linked_folder :
    Unlinked linkedFolder (Utf8.encode "l/f")
      ∧ (∃ after, publish { write := some (2, .plain .storageFull) } linkedFolder
          (Utf8.encode "l/f") (Utf8.encode "new") = (.error (.plain .storageFull), after)
        ∧ Fails (.writing 2) linkedFolder (Utf8.encode "l/f") (Utf8.encode "new") after)
      ∧ ∃ after place aside, publish {} linkedFolder (Utf8.encode "l/f") (Utf8.encode "new")
          = (.ok ⟨Utf8.encode "l/f"⟩, after)
        ∧ Published linkedFolder (Utf8.encode "l/f") (Utf8.encode "new") place aside after := by
  have located : linkedFolder.locate .itself (draft (Utf8.encode "l/f"))
      = .ok (.name [[0x77], [0x64]] (Utf8.encode "f.tmp") false) := by decide +kernel
  have unlinked : Unlinked linkedFolder (Utf8.encode "l/f") := by
    intro place entry target at_ found
    rw [at_.unique (Workdir.isAt_of_locate located)] at found
    have file : linkedFolder.entry? ([[0x77], [0x64]] ++ [Utf8.encode "f.tmp"])
        = some { kind := .file (Utf8.encode "left over") } := by decide +kernel
    cases file.symm.trans found
    simp
  have published : (publish {} linkedFolder (Utf8.encode "l/f") (Utf8.encode "new")).1
      = .ok ⟨Utf8.encode "l/f"⟩ := by decide +kernel
  refine ⟨unlinked, ?_, ?_⟩
  · exact (whole_or_not_at_all unlinked _ _).1 (.writing 2) _ ⟨rfl, rfl, _, rfl⟩
  · apply (whole_or_not_at_all unlinked _ _).2
    intro setback fault occurs
    obtain ⟨after, failed, -⟩ := (whole_or_not_at_all unlinked _ _).1 setback fault occurs
    rw [failed] at published
    cases published

/-- A folder with a link that has the name of a draft, and the file that it leads to. -/
def linkedDraft : Workdir where
  entries := [
    ([Utf8.encode "a.tmp"], { kind := .link (Utf8.encode "b") }),
    ([Utf8.encode "b"], { kind := .file (Utf8.encode "keep") })]

/-- What a folder lists once a file was published and removed, somebody else has written one under
the same name, and the first was given up. -/
def replaced (mine yours : List UInt8) : Except Fault (List Name × List Name) :=
  ((publish {} {} (Utf8.encode "a") mine).2.remove (Utf8.encode "a")).bind fun gone =>
    (gone.write (Utf8.encode "a") yours).map fun written =>
      (written.names, ((adopt (Utf8.encode "a")).discard written).names)

/-- A draft stays behind when the storage is full, or what was written cannot be made durable.  A
link that has the name of the draft has another file overwritten.  Who gives up a file that is gone
removes what somebody else has put there since. -/
theorem leaves_draft_behind :
    (publish { write := some (1, .plain .storageFull) } {} (Utf8.encode "a") (Utf8.encode "new")).1
        = .error (.plain .storageFull)
      ∧ (publish { write := some (1, .plain .storageFull) } {} (Utf8.encode "a")
          (Utf8.encode "new")).2.names = [Utf8.encode "a.tmp"]
      ∧ (publish { sync := some (.plain .other) } {} (Utf8.encode "a") (Utf8.encode "new")).1
        = .error (.plain .other)
      ∧ (publish { sync := some (.plain .other) } {} (Utf8.encode "a")
          (Utf8.encode "new")).2.names = [Utf8.encode "a.tmp"]
      ∧ (publish {} linkedDraft (Utf8.encode "a") (Utf8.encode "new")).1 = .ok ⟨Utf8.encode "a"⟩
      ∧ (publish {} linkedDraft (Utf8.encode "a") (Utf8.encode "new")).2.read (Utf8.encode "b")
        = .ok (Utf8.encode "new")
      ∧ replaced (Utf8.encode "mine") (Utf8.encode "yours") = .ok ([Utf8.encode "a"], []) := by
  decide +kernel

end OwnedFile

end AttachService
