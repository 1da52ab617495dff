/-
Module: AttachService.Proofs.Summoning.Silence
Purpose: Once its file is claimed, a summons does nothing any more, and is content.
Trusted boundary: none
Main exports: Summoning.Claimed, Summoning.Hushed, Summoning.hushed_run
-/
import AttachService.Proofs.Summoning.Kept

namespace AttachService

/-- Whether a send is under way. -/
def SendPost.underWay : SendPost → Nat
  | .naming _ | .writing .. | .ringing _ => 1
  | .resting | .withdrawn => 0

/-- Who looks for a file where nothing is is told so. -/
theorem OwnedFile.exists?_of_vacant {w : Workdir} {name : Name} (simple : Path.Simple name)
    (vacant : w.holds name = none) : exists? ⟨name⟩ w = .ok false := by
  have plain : ∀ entry, w.holds name = some entry → ∀ target, entry.kind ≠ .link target := by
    intro entry found
    cases vacant.symm.trans found
  have reached := Workdir.reach_of_not_link simple plain
  rw [vacant] at reached
  rw [exists?, Workdir.exists?, reached]

namespace Summoning

variable {first v u after : Summoning} {m : SummoningMove}

/-- How many sends have begun. -/
def begun (v : Summoning) : Nat := v.sent.length + v.post.underWay

/-- The file was published, and is gone. -/
def Claimed (v : Summoning) : Prop :=
  ∃ file, v.summons.file = some file ∧ v.machine.workdir.holds file.path = none

/-- What has become of a summons with a claimed file: nothing but the end of a send that was under
way. -/
structure Hushed (v u : Summoning) : Prop where
  summons : u.summons = v.summons
  published : u.published = v.published
  /-- Nothing has come to the directory. -/
  fades : v.machine.workdir.Fades u.machine.workdir
  /-- A send that begins now ends at once.  It does nothing, and is content. -/
  content : u.post = .resting → ∀ mishap, u.move (.send mishap) = u.report { answer := .ok () }
  /-- So did all that have begun since. -/
  silent : ∀ n report, v.begun ≤ n → u.sent[n]? = some report → report = { answer := .ok () }
  earlier : u.post.underWay = 1 → u.sent.length < v.begun
  /-- The process may have been signalled by the send that was under way. -/
  quits : u.machine.quits + u.post.underWay ≤ v.machine.quits + v.post.underWay

/-- Whoever publishes a file has none. -/
theorem Kept.file_eq_none (kept : Kept first v) {name : Name}
    (making : v.post.drafts = some name) : v.summons.file = none :=
  (kept.drafts name making).2

/-- The file of a summons is an attach file. -/
theorem Kept.named_file (kept : Kept first v) {file : OwnedFile}
    (owned : v.summons.file = some file) : AttachFile.IsName file.path := by
  apply kept.named
  rw [← kept.owned, owned]
  exact List.mem_singleton_self file.path

namespace Claimed

/-- A claimed file is seen to be gone. -/
theorem exists?_eq (claimed : v.Claimed) (kept : Kept first v) {file : OwnedFile}
    (owned : v.summons.file = some file) : file.exists? v.machine.workdir = .ok false := by
  obtain ⟨other, same, vacant⟩ := claimed
  cases owned.symm.trans same
  exact OwnedFile.exists?_of_vacant (kept.named_file owned).simple vacant

/-- Only a file that was published can be claimed. -/
theorem file_ne_none (claimed : v.Claimed) : v.summons.file ≠ none := by
  obtain ⟨file, owned, -⟩ := claimed
  simp [owned]

/-- A send that begins after that ends at once, and well. -/
theorem move_send (claimed : v.Claimed) (kept : Kept first v) (here : v.post = .resting)
    (mishap : Option SummonsFailure) :
    v.move (.send mishap) = v.report { answer := .ok () } := by
  obtain ⟨file, owned, -⟩ := id claimed
  simp only [move, send, here, owned, claimed.exists?_eq kept owned]

/-- A claimed file does not come back while entries only go away. -/
theorem fades (claimed : v.Claimed) (summons : after.summons = v.summons)
    (fades : v.machine.workdir.Fades after.machine.workdir) : after.Claimed := by
  obtain ⟨file, owned, vacant⟩ := claimed
  exact ⟨file, summons ▸ owned, fades.vacant vacant⟩

end Claimed

namespace Hushed

theorem refl (claimed : v.Claimed) (kept : Kept first v) : Hushed v v where
  summons := rfl
  published := rfl
  fades := v.machine.workdir.fades_refl
  content := claimed.move_send kept
  silent n report later found := by
    have short : n < v.sent.length := (List.getElem?_eq_some_iff.1 found).1
    have := Nat.le_trans (Nat.le_add_right _ _) later
    omega
  earlier under := by simp [begun, under]
  quits := Nat.le_refl _

/-- What was claimed is not there again. -/
theorem claimed (hushed : Hushed v u) (claimed : v.Claimed) : u.Claimed :=
  claimed.fades hushed.summons hushed.fades

/-- A send ends: one that was under way, or one that does nothing. -/
theorem report (hushed : Hushed v u) (claimed : v.Claimed) {told : SendReport} {quits : Nat}
    (settled : after = ({ u with machine := { u.machine with quits := quits } } : Summoning).report
      told)
    (kept : Kept first after) (content : v.begun ≤ u.sent.length → told = { answer := .ok () })
    (signalled : quits ≤ u.machine.quits + u.post.underWay) : Hushed v after := by
  have gone : after.Claimed := by
    subst settled
    obtain ⟨file, owned, vacant⟩ := hushed.claimed claimed
    exact ⟨file, owned, vacant⟩
  subst settled
  exact {
    summons := hushed.summons
    published := hushed.published
    fades := hushed.fades
    content := gone.move_send kept
    silent := by
      intro n report later found
      change (u.sent ++ [told])[n]? = some report at found
      rcases Nat.lt_trichotomy n u.sent.length with old | rfl | beyond
      · rw [List.getElem?_append_left old] at found
        exact hushed.silent n report later found
      · simp only [List.getElem?_concat_length, Option.some.injEq] at found
        rw [← found]
        exact content later
      · rw [List.getElem?_eq_none (by simpa using Nat.succ_le_of_lt beyond)] at found
        cases found
    earlier := by simp [Summoning.report, SendPost.underWay]
    quits := Nat.le_trans signalled hushed.quits }

/-- Something goes from the directory. -/
theorem fading (hushed : Hushed v u) (claimed : v.Claimed) (kept : Kept first after)
    (summons : after.summons = u.summons) (published : after.published = u.published)
    (fades : u.machine.workdir.Fades after.machine.workdir) (sent : after.sent = u.sent)
    (post : after.post.underWay = u.post.underWay)
    (quits : after.machine.quits = u.machine.quits) : Hushed v after where
  summons := summons.trans hushed.summons
  published := published.trans hushed.published
  fades := hushed.fades.trans fades
  content := ((hushed.claimed claimed).fades summons fades).move_send kept
  silent := by
    rw [sent]
    exact hushed.silent
  earlier := by
    rw [post, sent]
    exact hushed.earlier
  quits := by
    rw [quits, post]
    exact hushed.quits

/-- Whatever happens then, the summons is as silent as before. -/
theorem step (hushed : Hushed v u) (claimed : v.Claimed) (kept : Kept first u)
    (step : u.Step m after) : Hushed v after := by
  have kept' := kept.step step
  have gone := hushed.claimed claimed
  have draftless : ∀ name, u.post.drafts ≠ some name := fun name making =>
    gone.file_ne_none (kept.file_eq_none making)
  cases step with
  | miss here unpublished | begin here unpublished => exact absurd unpublished gone.file_ne_none
  | doubt here owned failed => cases failed.symm.trans (gone.exists?_eq kept owned)
  | see here owned there => cases there.symm.trans (gone.exists?_eq kept owned)
  | rest => exact hushed.report claimed rfl kept' (fun _ => rfl) (Nat.le_add_right _ _)
  | @fail _ name _ here =>
      refine absurd ?_ (draftless name)
      rcases here with here | ⟨place, count, here⟩ <;> rw [here] <;> rfl
  | @create name _ _ here | @write name _ _ _ _ _ here | @balk _ name _ _ _ _ here
  | @publish _ name _ _ _ _ here =>
      refine absurd ?_ (draftless name)
      rw [here]
      rfl
  | dumb here =>
      have earlier := hushed.earlier (by rw [here]; rfl)
      exact hushed.report claimed rfl kept' (fun later => absurd later (Nat.not_le.2 earlier))
        (Nat.le_add_right _ _)
  | ring here =>
      have earlier := hushed.earlier (by rw [here]; rfl)
      refine hushed.report claimed rfl kept' (fun later => absurd later (Nat.not_le.2 earlier)) ?_
      rw [here]
      exact Nat.le_refl _
  | withdraw here =>
      refine hushed.fading claimed kept' rfl rfl (u.summons.fades_withdraw u.machine) rfl ?_
        (u.summons.quits_withdraw u.machine)
      rw [here]
      rfl
  | sweep fades => exact hushed.fading claimed kept' rfl rfl fades rfl rfl rfl

end Hushed

/-- After the file was claimed, no send does anything but end. -/
theorem hushed_run (claimed : v.Claimed) (kept : Kept first v) (later : List SummoningMove) :
    Hushed v (v.run later) := by
  let Inv (u : Summoning) : Prop := Hushed v u ∧ Kept first u
  have base : Inv v := ⟨Hushed.refl claimed kept, kept⟩
  have all : Inv (v.run later) := by
    refine run_preserves ?_ base later
    rintro before m after ⟨hushed, kept⟩ step
    exact ⟨hushed.step claimed kept step, kept.step step⟩
  exact all.1

end Summoning

end AttachService
