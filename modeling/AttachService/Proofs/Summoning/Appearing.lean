/-
Module: AttachService.Proofs.Summoning.Appearing
Purpose: No attach file appears in the directory but the one that is published.
Trusted boundary: none
Main exports: Workdir.Unlinked, Summoning.Watched, Summoning.appearing_run
-/
import AttachService.Proofs.Summoning.Kept

namespace AttachService

namespace Workdir

variable {w after : Workdir} {name : Name}

/-- No draft is a link to another place. -/
def Unlinked (w : Workdir) : Prop :=
  ∀ name, AttachFile.IsName name → ∀ entry,
    w.holds (OwnedFile.draft name) = some entry → ∀ path, entry.kind ≠ .link path

/-- No link comes of entries going away. -/
theorem Unlinked.fades (unlinked : w.Unlinked) (fades : w.Fades after) : after.Unlinked :=
  fun name named entry found => unlinked name named entry (fades.of_holds found)

/-- Nothing but the draft of this name is different, and that is no link. -/
structure Drafts (w : Workdir) (name : Name) (after : Workdir) : Prop where
  home : after.home = w.home
  others : ∀ other, other ≠ OwnedFile.draft name → after.holds other = w.holds other
  plain : ∀ entry, after.holds (OwnedFile.draft name) = some entry → ∀ path, entry.kind ≠ .link path

/-- To alter a draft, without making a link of it, is what `Drafts` allows. -/
theorem Alters.drafts {entry : Option Entry}
    (alters : w.Alters (OwnedFile.draft name) entry after)
    (plain : ∀ found, entry = some found → ∀ path, found.kind ≠ .link path) :
    w.Drafts name after :=
  ⟨alters.home, alters.others, fun found there => plain found (alters.self.symm.trans there)⟩

/-- What is done to a draft makes no other one a link. -/
theorem Drafts.unlinked (drafts : w.Drafts name after) (unlinked : w.Unlinked) :
    after.Unlinked := by
  intro other named entry found
  by_cases same : OwnedFile.draft other = OwnedFile.draft name
  · rw [same] at found
    exact drafts.plain entry found
  · rw [drafts.others _ same] at found
    exact unlinked other named entry found

/-- Bytes are added to a file, or to nothing. -/
theorem drafts_append (named : AttachFile.IsName name) (unlinked : w.Unlinked)
    (bytes : List UInt8) :
    w.Drafts name (w.append (w.home ++ [OwnedFile.draft name]) bytes) := by
  have same : w.Drafts name w := ⟨rfl, fun _ _ => rfl, unlinked name named⟩
  cases found : w.holds (OwnedFile.draft name) with
  | none =>
      rw [holds] at found
      simpa [append, found] using same
  | some entry =>
      cases file : entry.kind with
      | file contents =>
          exact (append_of_file found file bytes).drafts (by rintro _ ⟨⟩ path; simp)
      | folder | link | socket =>
          rw [holds] at found
          simpa [append, found, file] using same

end Workdir

namespace Summoning

variable {first v after : Summoning} {m : SummoningMove}

/-- What is at the names of attach files, and where the draft is. -/
structure Watched (first v : Summoning) : Prop where
  unlinked : v.machine.workdir.Unlinked
  place : ∀ name place count, v.post = .writing name place count →
    place = v.machine.workdir.home ++ [OwnedFile.draft name]
  /-- An attach file that is there was there from the beginning, or was published. -/
  appears : ∀ name, AttachFile.IsName name → v.machine.workdir.holds name ≠ none →
    first.machine.workdir.holds name ≠ none ∨ name ∈ v.published

namespace Watched

/-- Making a draft gives nothing the name of an attach file. -/
theorem drafts (watched : Watched first v) {name : Name} {w : Workdir} {post : SendPost}
    (named : AttachFile.IsName name) (drafts : v.machine.workdir.Drafts name w)
    (place : ∀ other there count, post = .writing other there count →
      there = v.machine.workdir.home ++ [OwnedFile.draft other]) :
    Watched first (v.reach post w) where
  unlinked := drafts.unlinked watched.unlinked
  place other there count here := by
    have same := place other there count here
    rw [← drafts.home] at same
    exact same
  appears other finished there := by
    apply watched.appears other finished
    rw [← drafts.others other (finished.ne_draft named)]
    exact there

/-- Where entries only go away, no attach file appears. -/
theorem fades (watched : Watched first v) {w : Workdir} (fades : v.machine.workdir.Fades w)
    (place : ∀ other there count, after.post = .writing other there count →
      there = v.machine.workdir.home ++ [OwnedFile.draft other])
    (same : after.machine.workdir = w) (published : after.published = v.published) :
    Watched first after where
  unlinked := by
    rw [same]
    exact watched.unlinked.fades fades
  place other there count here := by
    rw [same, fades.home]
    exact place other there count here
  appears name named there := by
    rw [published]
    apply watched.appears name named
    intro vacant
    rw [same] at there
    exact there (fades.vacant vacant)

/-- A send that does nothing to the directory. -/
theorem congr (watched : Watched first v)
    (place : ∀ other there count, after.post = .writing other there count →
      there = v.machine.workdir.home ++ [OwnedFile.draft other])
    (same : after.machine.workdir = v.machine.workdir)
    (published : after.published = v.published) : Watched first after :=
  watched.fades v.machine.workdir.fades_refl place same published

/-- Only the published file gets its name. -/
theorem publish (watched : Watched first v) {mishap : Option Fault} {name : Name}
    {file : OwnedFile} {w : Workdir} (named : AttachFile.IsName name)
    (promoted : OwnedFile.promote mishap v.machine.workdir name = (.ok file, w)) :
    Watched first { v.reach (.ringing true) w with
      summons := { v.summons with file := some file }
      published := v.published ++ [name] } := by
  obtain ⟨entry, between, -, cleared, made⟩ := Traffic.promote_eq_ok named promoted
  have drafts : v.machine.workdir.Drafts name between := cleared.drafts (by simp)
  have watched : Watched first (v.reach (.ringing true) between) :=
    watched.drafts named drafts (by simp)
  exact {
    unlinked := by
      intro other finished entry found
      change w.holds (OwnedFile.draft other) = some entry at found
      rw [made.others _ (named.ne_draft finished).symm] at found
      exact watched.unlinked other finished entry found
    place := by simp [reach]
    appears := by
      intro other finished there
      by_cases same : other = name
      · rw [same]
        exact .inr (List.mem_append_right _ (List.mem_singleton_self name))
      · refine (watched.appears other finished ?_).imp_right (List.mem_append_left _)
        change between.holds other ≠ none
        rw [← made.others other same]
        exact there }

/-- No step makes an attach file appear but the one that publishes it. -/
theorem step (watched : Watched first v) (kept : Kept first v) (step : v.Step m after) :
    Watched first after := by
  cases step with
  | miss | begin | doubt | rest | see | fail | dumb | ring =>
      exact watched.congr (by simp [report, count]) rfl rfl
  | create here made =>
      obtain ⟨named, -⟩ := kept.drafts _ (by rw [here]; rfl)
      obtain ⟨rfl, entry, alters⟩ :=
        Workdir.create_of_simple named.simple_draft (watched.unlinked _ named) made
      apply watched.drafts named (alters.drafts (by rintro _ ⟨⟩ path; simp))
      rintro other there count ⟨⟩
      rfl
  | write piece here =>
      obtain ⟨named, -⟩ := kept.drafts _ (by rw [here]; rfl)
      obtain rfl := watched.place _ _ _ here
      apply watched.drafts named (Workdir.drafts_append named watched.unlinked piece)
      rintro other there count ⟨⟩
      rfl
  | balk here failed =>
      obtain ⟨named, -⟩ := kept.drafts _ (by rw [here]; rfl)
      rcases Traffic.promote_eq_error named failed with same | alters
      · exact watched.congr (by simp [report]) same rfl
      · have drafts : v.machine.workdir.Drafts _ _ := alters.drafts (by simp)
        have watched : Watched first (v.reach .resting _) := watched.drafts named drafts (by simp)
        exact watched.congr (by simp [report]) rfl rfl
  | publish here promoted =>
      obtain ⟨named, -⟩ := kept.drafts _ (by rw [here]; rfl)
      exact watched.publish named promoted
  | withdraw =>
      exact watched.fades (v.summons.fades_withdraw v.machine) (by simp) rfl rfl
  | sweep fades => exact watched.fades fades watched.place rfl rfl

end Watched

/-- Unless a draft was a link from the beginning, no attach file comes to the directory but the
one that is published. -/
theorem appearing_run (target : UInt32) (channel : String) (machine : Machine)
    (unlinked : machine.workdir.Unlinked) (moves : List SummoningMove) :
    Watched (start target channel machine) ((start target channel machine).run moves) := by
  let Inv (v : Summoning) : Prop :=
    Kept (start target channel machine) v ∧ Watched (start target channel machine) v
  have base : Inv (start target channel machine) := by
    refine ⟨kept_start target channel machine, unlinked, by simp [start], ?_⟩
    exact fun name _ there => .inl there
  have all : Inv ((start target channel machine).run moves) := by
    refine run_preserves ?_ base moves
    rintro before m after ⟨kept, watched⟩ step
    exact ⟨kept.step step, watched.step kept step⟩
  exact all.2

end Summoning

end AttachService
