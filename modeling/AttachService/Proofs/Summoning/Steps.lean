/-
Module: AttachService.Proofs.Summoning.Steps
Purpose: All that a move of a summoning can come to, said once, and induction over runs.
Trusted boundary: none
Main exports: Workdir.Fades, Workdir.fades_of_remove, Traffic.fades_advance, Summoning.Step,
  Summoning.move_eq_or_step, Summoning.run_preserves
-/
import AttachService.Files.Summoning
import AttachService.Proofs.Files.Moves

namespace AttachService

/-! ### What sweeps do to a directory -/

namespace Workdir

variable {w between after : Workdir} {place : Place} {path : List UInt8}

/-- The tree after some of its entries have gone.  Nothing else is different. -/
structure Fades (w after : Workdir) : Prop where
  home : after.home = w.home
  entries : ∀ place, after.entry? place = w.entry? place ∨ after.entry? place = none

theorem fades_refl (w : Workdir) : w.Fades w := ⟨rfl, fun _ => .inl rfl⟩

theorem Fades.trans (first : w.Fades between) (second : between.Fades after) : w.Fades after where
  home := second.home.trans first.home
  entries place := by
    rcases second.entries place with same | gone
    · rw [same]
      exact first.entries place
    · exact .inr gone

/-- What was under a name is so still, or gone. -/
theorem Fades.holds (fades : w.Fades after) (name : Name) :
    after.holds name = w.holds name ∨ after.holds name = none := by
  rw [Workdir.holds, Workdir.holds, fades.home]
  exact fades.entries (w.home ++ [name])

/-- What is left has been there. -/
theorem Fades.of_holds (fades : w.Fades after) {name : Name} {entry : Entry}
    (found : after.holds name = some entry) : w.holds name = some entry := by
  rcases fades.holds name with same | gone
  · rw [← same, found]
  · cases gone.symm.trans found

/-- A name that was free stays free. -/
theorem Fades.vacant (fades : w.Fades after) {name : Name} (vacant : w.holds name = none) :
    after.holds name = none := by
  rcases fades.holds name with same | gone
  · rw [same, vacant]
  · exact gone

/-- Anything but a folder has nothing inside it. -/
theorem outside_of_not_folder {entry : Entry} (found : w.entry? place = some entry)
    (other : entry.kind ≠ .folder) : ¬ place.isPrefixOf w.home := by
  intro above
  rw [Workdir.entry?, if_pos above] at found
  cases found
  exact other rfl

/-- Whatever path is removed, one entry goes away. -/
theorem fades_of_remove (removed : w.remove path = .ok after) : w.Fades after := by
  unfold remove at removed
  split at removed
  · cases removed
  · cases removed
  · next folder name slash _ =>
      split at removed
      · cases removed
      · cases removed
      · next entry found =>
          have there : w.entry? (folder ++ [name]) = some entry := by
            unfold find at found
            split at found
            · cases found
            · exact Except.ok.inj found
          split at removed
          · cases removed
          · next other =>
              split at removed
              · cases removed
              · split at removed
                · cases removed
                · cases removed
                  refine ⟨rfl, fun place => ?_⟩
                  rw [entryAt_erase (outside_of_not_folder there other)]
                  split
                  · exact .inr rfl
                  · exact .inl rfl

end Workdir

namespace Traffic

/-- A step of a sweep changes nothing in the directory, or removes one entry. -/
theorem fades_advance (target : UInt32) (w : Workdir) (sweep : Sweep) :
    w.Fades (advance target w sweep).2 := by
  unfold advance
  split
  · split
    · exact w.fades_refl
    · next removed =>
        simp only
        split <;> exact Workdir.fades_of_remove removed
  · exact w.fades_refl
  · split
    · split <;> exact w.fades_refl
    · exact w.fades_refl

/-- A sweep takes entries away and adds none. -/
theorem fades_proceed (t : Traffic) (k : Nat) : t.workdir.Fades (t.move (.proceed k)).workdir := by
  cases found : t.sweeps[k]? with
  | none => simpa [move, found] using t.workdir.fades_refl
  | some sweep =>
      simp only [move, found, Option.elim_some, proceed]
      split
      · exact t.workdir.fades_refl
      · exact fades_advance t.target t.workdir sweep

/-- To list a directory does not change it. -/
theorem workdir_list (t : Traffic) (listing : List Name) :
    (t.move (.list listing)).workdir = t.workdir := by
  simp only [move]
  split <;> rfl

theorem workdir_breakOff (t : Traffic) (k : Nat) :
    (t.move (.breakOff k)).workdir = t.workdir := by
  cases found : t.sweeps[k]? with
  | none => simp [move, found]
  | some sweep =>
      simp only [move, found, Option.elim_some, breakOff]
      split <;> rfl

end Traffic

/-- The process is signalled once, or not at all. -/
theorem Summons.ring_cases (mishap : Option Fault) (s : Summons) (m : Machine) :
    (∃ failure, s.ring mishap m = (.error failure, s, m))
      ∨ s.ring mishap m = (.ok (), s, { m with quits := m.quits + 1 }) := by
  unfold ring Machine.quit
  cases mishap with
  | some fault => exact .inl ⟨_, rfl⟩
  | none =>
      by_cases same : s.target = m.pid
      · right
        simp only [if_pos same]
      · refine .inl ⟨.noProcess s.target, ?_⟩
        simp only [if_neg same]

namespace Summoning

variable {v after : Summoning} {m : SummoningMove}

/-- What a move that changes anything comes to. -/
inductive Step (v : Summoning) : SummoningMove → Summoning → Prop where
  /-- The process cannot be seen. -/
  | miss {mishap : Option SummonsFailure} {failure : SummonsFailure} (here : v.post = .resting)
      (unpublished : v.summons.file = none) :
      Step v (.send mishap) (v.count.report { answer := .error failure })
  | begin {mishap : Option SummonsFailure} (here : v.post = .resting)
      (unpublished : v.summons.file = none) :
      Step v (.send mishap)
        { v.count with
          post := .naming (Utf8.encode
            (AttachFile.name v.summons.target v.machine.client v.machine.attempts)) }
  /-- It cannot be told whether the file is there. -/
  | doubt {mishap : Option SummonsFailure} {file : OwnedFile} {fault : Fault}
      (here : v.post = .resting) (owned : v.summons.file = some file)
      (failed : file.exists? v.machine.workdir = .error fault) :
      Step v (.send mishap) (v.report { answer := .error (.io fault) })
  /-- The file is gone. -/
  | rest {mishap : Option SummonsFailure} {file : OwnedFile} (here : v.post = .resting)
      (owned : v.summons.file = some file)
      (gone : file.exists? v.machine.workdir = .ok false) :
      Step v (.send mishap) (v.report { answer := .ok () })
  | see {mishap : Option SummonsFailure} {file : OwnedFile} (here : v.post = .resting)
      (owned : v.summons.file = some file)
      (there : file.exists? v.machine.workdir = .ok true) :
      Step v (.send mishap) { v with post := .ringing false }
  /-- The draft cannot be made or finished. -/
  | fail {m : SummoningMove} {name : Name} {fault : Fault}
      (here : v.post = .naming name ∨ ∃ place count, v.post = .writing name place count) :
      Step v m (v.report { answer := .error (.io fault) })
  | create {name : Name} {place : Place} {w : Workdir} (here : v.post = .naming name)
      (made : v.machine.workdir.create (OwnedFile.draft name) = .ok (place, w)) :
      Step v (.create none) (v.reach (.writing name place 0) w)
  | write {name : Name} {place : Place} {done more count : Nat} (piece : List UInt8)
      (here : v.post = .writing name place done) :
      Step v (.write count)
        (v.reach (.writing name place more) (v.machine.workdir.append place piece))
  /-- The draft cannot have the name of the file. -/
  | balk {mishap : Option Fault} {name : Name} {place : Place} {done : Nat} {fault : Fault}
      {w : Workdir} (here : v.post = .writing name place done)
      (failed : OwnedFile.promote mishap v.machine.workdir name = (.error fault, w)) :
      Step v (.publish mishap) ((v.reach .resting w).report { answer := .error (.io fault) })
  | publish {mishap : Option Fault} {name : Name} {place : Place} {done : Nat} {file : OwnedFile}
      {w : Workdir} (here : v.post = .writing name place done)
      (promoted : OwnedFile.promote mishap v.machine.workdir name = (.ok file, w)) :
      Step v (.publish mishap)
        { v.reach (.ringing true) w with
          summons := { v.summons with file := some file }
          published := v.published ++ [name] }
  /-- The process cannot be signalled. -/
  | dumb {mishap : Option Fault} {published : Bool} {failure : SummonsFailure}
      (here : v.post = .ringing published) :
      Step v (.ring mishap) (v.report { answer := .error failure, published := published })
  | ring {mishap : Option Fault} {published : Bool} (here : v.post = .ringing published) :
      Step v (.ring mishap)
        (({ v with machine := { v.machine with quits := v.machine.quits + 1 } } : Summoning).report
          { answer := .ok (), published := published, rang := true })
  | withdraw (here : v.post = .resting) :
      Step v .withdraw { v with post := .withdrawn, machine := v.summons.withdraw v.machine }
  /-- A step of the target. -/
  | sweep {m : SummoningMove} {w : Workdir} {sweeps : List Sweep}
      (fades : v.machine.workdir.Fades w) :
      Step v m { v with machine := { v.machine with workdir := w }, sweeps := sweeps }

/-! ### The inversion -/

/-- A send begins where none is under way. -/
theorem eq_or_step_send (v : Summoning) (mishap : Option SummonsFailure) :
    v.send mishap = v ∨ v.Step (.send mishap) (v.send mishap) := by
  unfold send
  split
  · next here =>
      right
      split
      · next unpublished =>
          simp only
          split
          · exact .miss here unpublished
          · exact .begin here unpublished
      · next file owned =>
          split
          · next failed => exact .doubt here owned failed
          · next gone => exact .rest here owned gone
          · next there => exact .see here owned there
  · exact .inl rfl

/-- A draft is created once its file has a name. -/
theorem eq_or_step_create (v : Summoning) (mishap : Option Fault) :
    v.create mishap = v ∨ v.Step (.create mishap) (v.create mishap) := by
  unfold create
  split
  · next here =>
      right
      split
      · exact .fail (.inl here)
      · split
        · exact .fail (.inl here)
        · next made => exact .create here made
  · exact .inl rfl

/-- A file is published once its draft is written. -/
theorem eq_or_step_publish (v : Summoning) (mishap : Option Fault) :
    v.publish mishap = v ∨ v.Step (.publish mishap) (v.publish mishap) := by
  unfold publish
  split
  · next here =>
      split
      · exact .inl rfl
      · right
        split
        · next failed => exact .balk here failed
        · next promoted => exact .publish here promoted
  · exact .inl rfl

/-- The process is signalled once a file was published, or was seen. -/
theorem eq_or_step_ring (v : Summoning) (mishap : Option Fault) :
    v.ring mishap = v ∨ v.Step (.ring mishap) (v.ring mishap) := by
  unfold ring
  split
  · next here =>
      right
      rcases v.summons.ring_cases mishap v.machine with ⟨failure, rings⟩ | rings
      · rw [rings]
        exact .dumb here
      · rw [rings]
        exact .ring here
  · exact .inl rfl

/-- A draft is written piece by piece. -/
theorem eq_or_step_write (v : Summoning) (count : Nat) :
    v.write count = v ∨ v.Step (.write count) (v.write count) := by
  unfold write
  split
  · next here => exact .inr (.write _ here)
  · exact .inl rfl

/-- A send whose draft cannot be written on ends there. -/
theorem eq_or_step_fail (v : Summoning) (fault : Fault) :
    v.fail fault = v ∨ v.Step (.fail fault) (v.fail fault) := by
  unfold fail
  split
  · next here => exact .inr (.fail (.inr ⟨_, _, here⟩))
  · exact .inl rfl

/-- A summons is given up where no send is under way. -/
theorem eq_or_step_withdraw (v : Summoning) :
    v.withdraw = v ∨ v.Step .withdraw v.withdraw := by
  unfold withdraw
  split
  · next here => exact .inr (.withdraw here)
  · exact .inl rfl

/-- What the process does to the directory is one step of the summoning. -/
theorem step_sweep (v : Summoning) (m : SummoningMove) {act : TrafficMove}
    (fades : v.machine.workdir.Fades (v.traffic.move act).workdir) : v.Step m (v.sweep act) :=
  .sweep fades

/-- A move changes nothing, or it is one of the steps. -/
theorem move_eq_or_step (v : Summoning) (m : SummoningMove) :
    v.move m = v ∨ v.Step m (v.move m) := by
  cases m with
  | send mishap => exact eq_or_step_send v mishap
  | create mishap => exact eq_or_step_create v mishap
  | write count => exact eq_or_step_write v count
  | fail fault => exact eq_or_step_fail v fault
  | publish mishap => exact eq_or_step_publish v mishap
  | ring mishap => exact eq_or_step_ring v mishap
  | withdraw => exact eq_or_step_withdraw v
  | list listing =>
      right
      apply step_sweep
      rw [Traffic.workdir_list]
      exact Workdir.fades_refl _
  | proceed k =>
      right
      apply step_sweep
      exact v.traffic.fades_proceed k
  | breakOff k =>
      right
      apply step_sweep
      rw [Traffic.workdir_breakOff]
      exact Workdir.fades_refl _

/-! ### Runs -/

@[simp] theorem run_nil (v : Summoning) : v.run [] = v := rfl

@[simp] theorem run_cons (v : Summoning) (m : SummoningMove) (moves : List SummoningMove) :
    v.run (m :: moves) = (v.move m).run moves := rfl

theorem run_append (v : Summoning) (first second : List SummoningMove) :
    v.run (first ++ second) = (v.run first).run second :=
  List.foldl_append

theorem run_concat (v : Summoning) (moves : List SummoningMove) (m : SummoningMove) :
    v.run (moves ++ [m]) = (v.run moves).move m :=
  v.run_append moves [m]

/-- What every step preserves holds along every run. -/
theorem run_preserves {Inv : Summoning → Prop}
    (step : ∀ {before m after}, Inv before → before.Step m after → Inv after)
    (inv : Inv v) (moves : List SummoningMove) : Inv (v.run moves) := by
  induction moves generalizing v with
  | nil => exact inv
  | cons m rest ih =>
      rw [run_cons]
      rcases v.move_eq_or_step m with same | changed
      · rw [same]
        exact ih inv
      · exact ih (step inv changed)

end Summoning

end AttachService
