/-
Module: AttachService.Proofs.Summoning.Kept
Purpose: What a summoning keeps to: one file, one signal for each send that has rung, and nothing
  left behind that could be removed.
Trusted boundary: none
Main exports: SendPost.fresh, Summoning.Kept, Summoning.kept_run
-/
import AttachService.Proofs.Files.Distinct
import AttachService.Proofs.Summoning.Steps

namespace AttachService

/-- How many files were published and not reported yet. -/
def SendPost.fresh : SendPost → Nat
  | .ringing published => published.toNat
  | .resting | .naming _ | .writing .. | .withdrawn => 0

/-- The name that a send is making a file for. -/
def SendPost.drafts : SendPost → Option Name
  | .naming name | .writing name .. => some name
  | .resting | .ringing _ | .withdrawn => none

/-- Whoever is making a file has not published it. -/
theorem SendPost.fresh_of_drafts {post : SendPost} {name : Name}
    (making : post.drafts = some name) : post.fresh = 0 := by
  cases post with
  | naming | writing => rfl
  | resting | ringing | withdrawn => cases making

/-! ### Files that get their names -/

/-- What could be renamed is no folder. -/
theorem Workdir.not_folder_of_move {w after : Workdir} {old new : Place} {entry : Entry}
    (moved : w.move old new entry = .ok after) : entry.kind ≠ .folder := by
  unfold move at moved
  split at moved
  · cases moved
  · assumption

/-- Folders are not moved, so what has got its name is none. -/
theorem OwnedFile.not_folder_of_promote {mishap : Option Fault} {w after : Workdir} {name : Name}
    {file : OwnedFile} (named : AttachFile.IsName name)
    (promoted : promote mishap w name = (.ok file, after)) {entry : Entry}
    (found : after.holds name = some entry) : entry.kind ≠ .folder := by
  cases mishap with
  | some fault =>
      simp only [promote] at promoted
      split at promoted <;> cases promoted
  | none =>
      simp only [promote] at promoted
      split at promoted
      · next renamed =>
          cases promoted
          rw [Workdir.rename_of_simple named.simple_draft named.simple] at renamed
          split at renamed
          · cases renamed
          · obtain ⟨between, -, made⟩ := Workdir.move_eq_ok renamed
            cases made.self.symm.trans found
            exact Workdir.not_folder_of_move renamed
      · split at promoted <;> cases promoted

/-- Giving up a file takes at most an entry away. -/
theorem OwnedFile.fades_discard (file : OwnedFile) (w : Workdir) : w.Fades (file.discard w) := by
  unfold discard
  split
  · next removed => exact Workdir.fades_of_remove removed
  · exact w.fades_refl

/-- What is discarded is gone, unless it cannot be removed. -/
theorem OwnedFile.removeFault_of_discard {w : Workdir} {name : Name} {entry : Entry}
    (simple : Path.Simple name) (other : ∀ entry, w.holds name = some entry → entry.kind ≠ .folder)
    (found : (discard ⟨name⟩ w).holds name = some entry) : entry.removeFault ≠ none := by
  unfold discard at found
  split at found
  · next removed => cases (Workdir.alters_of_remove simple removed).self.symm.trans found
  · next kept =>
      intro removable
      have removed := (Workdir.remove_eq_ok_iff simple).2
        ⟨⟨entry, found, other entry found, removable⟩, rfl⟩
      cases removed.symm.trans kept

/-- Giving up a summons takes at most an entry away. -/
theorem Summons.fades_withdraw (s : Summons) (m : Machine) :
    m.workdir.Fades (s.withdraw m).workdir := by
  unfold withdraw
  split
  · exact m.workdir.fades_refl
  · next file _ => exact file.fades_discard m.workdir

/-- Giving up a summons does not signal the process. -/
theorem Summons.quits_withdraw (s : Summons) (m : Machine) : (s.withdraw m).quits = m.quits := by
  unfold withdraw
  split <;> rfl

namespace Summoning

variable {first v after : Summoning} {m : SummoningMove}

/-- What a summoning has come to since it was as in `first`. -/
structure Kept (first v : Summoning) : Prop where
  owned : v.summons.file.toList.map OwnedFile.path = v.published
  named : ∀ name ∈ v.published, AttachFile.IsName name
  /-- Whoever is making a file has none yet. -/
  drafts : ∀ name, v.post.drafts = some name → AttachFile.IsName name ∧ v.summons.file = none
  rings : ∀ published, v.post = .ringing published → v.summons.file ≠ none
  reported : v.published.length = v.sent.countP SendReport.published + v.post.fresh
  quits : v.machine.quits = first.machine.quits + v.sent.countP SendReport.rang
  plain : ∀ name ∈ v.published, ∀ entry, v.machine.workdir.holds name = some entry →
    entry.kind ≠ .folder
  /-- What is left of the file when it was given up cannot be removed. -/
  left : v.post = .withdrawn → ∀ name ∈ v.published, ∀ entry,
    v.machine.workdir.holds name = some entry → entry.removeFault ≠ none

namespace Kept

/-- As long as a summons has no file, none was published. -/
theorem published_eq (kept : Kept first v) (unpublished : v.summons.file = none) :
    v.published = [] := by
  rw [← kept.owned, unpublished]
  rfl

/-- A send that has not signalled ends. -/
theorem report (kept : Kept first v) (told : SendReport) (silent : told.rang = false)
    (fresh : told.published.toNat = v.post.fresh) : Kept first (v.report told) where
  owned := kept.owned
  named := kept.named
  drafts := by simp [Summoning.report, SendPost.drafts]
  rings := by simp [Summoning.report]
  reported := by
    change v.published.length = (v.sent ++ [told]).countP SendReport.published + 0
    rw [List.countP_append, kept.reported, ← fresh]
    cases publishes : told.published <;> simp [publishes]
  quits := by simp [Summoning.report, kept.quits, silent]
  plain := kept.plain
  left := by simp [Summoning.report]

/-- As long as there is no file, a send may do to the directory what it wants. -/
theorem reach (kept : Kept first v) (unpublished : v.summons.file = none) (w : Workdir)
    {post : SendPost} (quiet : v.post.fresh = 0 ∧ post.fresh = 0)
    (drafts : ∀ name, post.drafts = some name → AttachFile.IsName name)
    (here : ∀ published, post ≠ .ringing published) : Kept first (v.reach post w) where
  owned := kept.owned
  named := kept.named
  drafts name making := ⟨drafts name making, unpublished⟩
  rings published rings := absurd rings (here published)
  reported := by
    have reported := kept.reported
    rw [quiet.1] at reported
    simpa [Summoning.reach, quiet.2] using reported
  quits := kept.quits
  plain := by simp [Summoning.reach, kept.published_eq unpublished]
  left := by simp [Summoning.reach, kept.published_eq unpublished]

/-- Whoever is making a file goes on with it, or gives it up. -/
theorem making {name : Name} (kept : Kept first v) (making : v.post.drafts = some name)
    (w : Workdir) {post : SendPost} (goes : post = .resting ∨ post.drafts = some name) :
    Kept first (v.reach post w) := by
  obtain ⟨named, unpublished⟩ := kept.drafts name making
  have before := SendPost.fresh_of_drafts making
  apply kept.reach unpublished w
  · rcases goes with rfl | same
    · exact ⟨before, rfl⟩
    · exact ⟨before, SendPost.fresh_of_drafts same⟩
  · intro other drafts
    rcases goes with rfl | same
    · cases drafts
    · cases same.symm.trans drafts
      exact named
  · rintro published rfl
    rcases goes with gone | same
    · cases gone
    · cases same

/-- A file gets its name, and the send is going to signal the process. -/
theorem publish {mishap : Option Fault} {name : Name} {place : Place} {done : Nat}
    {file : OwnedFile} {w : Workdir} (kept : Kept first v)
    (here : v.post = .writing name place done)
    (promoted : OwnedFile.promote mishap v.machine.workdir name = (.ok file, w)) :
    Kept first { v.reach (.ringing true) w with
      summons := { v.summons with file := some file }
      published := v.published ++ [name] } := by
  obtain ⟨named, unpublished⟩ := kept.drafts name (by rw [here]; rfl)
  have none := kept.published_eq unpublished
  cases OwnedFile.eq_of_promote promoted
  exact {
    owned := by simp [none]
    named := by simpa [none] using named
    drafts := by simp [Summoning.reach, SendPost.drafts]
    rings := by simp
    reported := by
      have reported := kept.reported
      rw [here] at reported
      simpa [Summoning.reach, SendPost.fresh] using reported
    quits := kept.quits
    plain := by
      intro other among entry found
      cases List.mem_singleton.1 (by simpa [none] using among)
      exact OwnedFile.not_folder_of_promote named promoted found
    left := by simp [Summoning.reach] }

/-- A file that is given up is removed, if it can be. -/
theorem withdraw (kept : Kept first v) (here : v.post = .resting) :
    Kept first { v with post := .withdrawn, machine := v.summons.withdraw v.machine } where
  owned := kept.owned
  named := kept.named
  drafts := by simp [SendPost.drafts]
  rings := by simp
  reported := by simpa [here, SendPost.fresh] using kept.reported
  quits := (v.summons.quits_withdraw v.machine).trans kept.quits
  plain name among entry found :=
    kept.plain name among entry ((v.summons.fades_withdraw v.machine).of_holds found)
  left := by
    intro _ name among entry found
    cases owned : v.summons.file with
    | none => simp [kept.published_eq owned] at among
    | some file =>
        have only : v.published = [file.path] := by
          rw [← kept.owned, owned]
          rfl
        obtain rfl : name = file.path := by simpa [only] using among
        simp only [Summons.withdraw, owned] at found
        exact OwnedFile.removeFault_of_discard (kept.named _ among).simple
          (kept.plain _ among) found

/-- No step gets the file, the reports and the signals out of step with each other. -/
theorem step (kept : Kept first v) (step : v.Step m after) : Kept first after := by
  cases step with
  | miss here unpublished =>
      have counted : Kept first v.count := { kept with }
      exact counted.report _ rfl (by simp [count, here, SendPost.fresh])
  | begin here unpublished =>
      have counted : Kept first v.count := { kept with }
      apply counted.reach unpublished v.machine.workdir
      · simp [count, here, SendPost.fresh]
      · intro name same
        cases same
        exact ⟨_, _, _, rfl⟩
      · simp
  | doubt here => exact kept.report _ rfl (by simp [here, SendPost.fresh])
  | rest here => exact kept.report _ rfl (by simp [here, SendPost.fresh])
  | see here owned =>
      exact { kept with
        drafts := by simp [SendPost.drafts]
        rings := by simp [owned]
        reported := by simpa [here, SendPost.fresh] using kept.reported
        left := by simp }
  | fail here =>
      apply kept.report _ rfl
      rcases here with here | ⟨place, count, here⟩ <;> rw [here] <;> rfl
  | @create name _ _ here made =>
      have making : v.post.drafts = some name := by rw [here]; rfl
      exact kept.making making _ (.inr rfl)
  | @write name _ _ _ _ piece here =>
      have making : v.post.drafts = some name := by rw [here]; rfl
      exact kept.making making _ (.inr rfl)
  | @balk _ name _ _ _ _ here failed =>
      have making : v.post.drafts = some name := by rw [here]; rfl
      exact (kept.making making _ (.inl rfl)).report _ rfl rfl
  | publish here promoted => exact kept.publish here promoted
  | dumb here => exact kept.report _ rfl (by simp [here, SendPost.fresh])
  | @ring mishap published here =>
      have reported := kept.reported
      rw [here] at reported
      exact {
        owned := kept.owned
        named := kept.named
        drafts := by simp [Summoning.report, SendPost.drafts]
        rings := by simp [Summoning.report]
        reported := by
          cases published <;> simpa [Summoning.report, SendPost.fresh] using reported
        quits := by simp [Summoning.report, kept.quits, Nat.add_assoc]
        plain := kept.plain
        left := by simp [Summoning.report] }
  | withdraw here => exact kept.withdraw here
  | sweep fades =>
      exact { kept with
        plain := fun name among entry found => kept.plain name among entry (fades.of_holds found)
        left := fun gone name among entry found =>
          kept.left gone name among entry (fades.of_holds found) }

end Kept

theorem kept_start (target : UInt32) (channel : String) (machine : Machine) :
    Kept (start target channel machine) (start target channel machine) where
  owned := rfl
  named := by simp [start]
  drafts := by simp [start, SendPost.drafts]
  rings := by simp [start]
  reported := rfl
  quits := rfl
  plain := by simp [start]
  left := by simp [start]

/-- At every moment the file, the reports and the signals agree. -/
theorem kept_run (target : UInt32) (channel : String) (machine : Machine)
    (moves : List SummoningMove) :
    Kept (start target channel machine) ((start target channel machine).run moves) :=
  run_preserves Kept.step (kept_start target channel machine) moves

end Summoning

end AttachService
