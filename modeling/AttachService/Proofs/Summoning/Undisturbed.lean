/-
Module: AttachService.Proofs.Summoning.Undisturbed
Purpose: A send that nobody overtakes does what one piece of code says in one go.
Trusted boundary: none
Main exports: Summoning.run_file, Summoning.run_sendNow
-/
import AttachService.Proofs.Files.Undisturbed
import AttachService.Proofs.Summoning.Kept

namespace AttachService

/-- Counting attempts moves no process. -/
theorem Machine.directoryOf_attempts (m : Machine) (attempts pid : UInt32) :
    ({ m with attempts := attempts } : Machine).directoryOf pid = m.directoryOf pid := rfl

namespace Summoning

variable {v u : Summoning} {name : Name}

/-- What is left of a send when its file was to be published. -/
def filed (v : Summoning) (name : Name) : Except Fault OwnedFile × Workdir → Summoning
  | (.error fault, w) => (v.reach .resting w).report { answer := .error (.io fault) }
  | (.ok file, w) =>
      { v.reach (.ringing true) w with
        summons := { v.summons with file := some file }
        published := v.published ++ [name] }

@[simp] theorem filed_reach (v : Summoning) (post : SendPost) (w : Workdir) (name : Name)
    (outcome : Except Fault OwnedFile × Workdir) :
    (v.reach post w).filed name outcome = v.filed name outcome := by
  obtain ⟨_ | _, _⟩ := outcome <;> rfl

/-- Nobody makes a file who is not at it. -/
theorem move_create_of_draftless (elsewhere : u.post.drafts = none) (mishap : Option Fault) :
    u.move (.create mishap) = u := by
  cases here : u.post <;> simp_all [SendPost.drafts, move, create]

/-- Without a draft there is nothing to finish. -/
theorem run_finishNow_of_draftless (elsewhere : u.post.drafts = none) (v : Summoning)
    (mishaps : Mishaps) : u.run (v.finishNow mishaps) = u := by
  cases here : u.post with
  | naming | writing => simp [here, SendPost.drafts] at elsewhere
  | resting | ringing | withdrawn =>
      unfold finishNow
      split <;> simp [move, write, fail, publish, here]

/-- A draft that is written in full gets its name, or fails to. -/
theorem move_publish {place : Place} {done : Nat} (here : v.post = .writing name place done)
    (whole : v.contents.length ≤ done) (mishap : Option Fault) :
    v.move (.publish mishap) = v.filed name (OwnedFile.promote mishap v.machine.workdir name) := by
  simp only [move, publish, here]
  rw [if_neg (Nat.not_lt.2 whole)]
  cases OwnedFile.promote mishap v.machine.workdir name with
  | mk outcome w => cases outcome <;> rfl

/-- To finish a draft step by step comes to what is said of it in one piece. -/
theorem run_finishNow {place : Place} (here : v.post = .writing name place 0) (mishaps : Mishaps) :
    v.run (v.finishNow mishaps)
      = v.filed name
        (match mishaps.write with
        | some (count, fault) =>
            (.error fault, v.machine.workdir.append place (v.contents.take count))
        | none =>
            let w := v.machine.workdir.append place v.contents
            match mishaps.sync with
            | some fault => (.error fault, w)
            | none => OwnedFile.promote mishaps.rename w name) := by
  have written : v.move (.write v.contents.length)
      = v.reach (.writing name place v.contents.length)
        (v.machine.workdir.append place v.contents) := by
    simp only [move, write, here, List.drop_zero, List.take_length, Nat.zero_add]
  obtain ⟨-, tears, lost, balks⟩ := mishaps
  cases tears with
  | some torn =>
      simp only [finishNow, run_cons, run_nil, move, write, here, List.drop_zero]
      rfl
  | none =>
      cases lost with
      | some fault =>
          simp only [finishNow, run_cons, run_nil, written]
          rfl
      | none =>
          simp only [finishNow, run_cons, run_nil, written]
          rw [move_publish rfl (Nat.le_refl _), filed_reach]
          rfl

/-- The file is made as in one go. -/
theorem run_file (here : v.post = .naming name) (mishaps : Mishaps) :
    v.run (.create mishaps.create :: v.finishNow mishaps)
      = v.filed name (OwnedFile.publish mishaps v.machine.workdir name v.contents) := by
  rw [run_cons]
  cases fails : mishaps.create with
  | some fault =>
      have failed : v.move (.create (some fault))
          = v.filed name (.error fault, v.machine.workdir) := by
        simp only [move, create, here]
        rfl
      rw [failed, run_finishNow_of_draftless rfl]
      simp only [OwnedFile.publish, fails]
  | none =>
      cases made : v.machine.workdir.create (OwnedFile.draft name) with
      | error fault =>
          have failed : v.move (.create none) = v.filed name (.error fault, v.machine.workdir) := by
            simp only [move, create, here, made]
            rfl
          rw [failed, run_finishNow_of_draftless rfl]
          simp only [OwnedFile.publish, fails, made]
      | ok drafted =>
          obtain ⟨place, w⟩ := drafted
          have begun : v.move (.create none) = v.reach (.writing name place 0) w := by
            simp only [move, create, here, made]
          have same : v.finishNow mishaps
              = (v.reach (.writing name place 0) w).finishNow mishaps := rfl
          rw [begun, same, run_finishNow rfl, filed_reach]
          simp only [OwnedFile.publish, fails, made]
          rfl

/-- Whoever is not at that point does not signal the process. -/
theorem move_ring_of_resting (here : v.post = .resting) (mishap : Option Fault) :
    v.move (.ring mishap) = v := by
  simp only [move, ring, here]

/-- A send has ended, and this is what is to be left of it. -/
structure Ends (v : Summoning) (told : Except SummonsFailure Unit × Summons × Machine)
    (u : Summoning) : Prop where
  post : u.post = .resting
  summons : u.summons = told.2.1
  machine : u.machine = told.2.2
  sweeps : u.sweeps = v.sweeps
  sent : ∃ published rang, u.sent = v.sent ++ [⟨told.1, published, rang⟩]

/-- A send ends with the signal, whether or not that gets through. -/
theorem ends_ring {published : Bool} (here : v.post = .ringing published) (mishap : Option Fault) :
    v.Ends (v.summons.ring mishap v.machine) (v.move (.ring mishap)) := by
  rcases v.summons.ring_cases mishap v.machine with ⟨failure, rings⟩ | rings
  · simp only [move, ring, here, rings]
    exact ⟨rfl, rfl, rfl, rfl, _, _, rfl⟩
  · simp only [move, ring, here, rings]
    exact ⟨rfl, rfl, rfl, rfl, _, _, rfl⟩

/-- Where there is a file already, a send goes on to the signal. -/
theorem run_create_of_draftless (elsewhere : u.post.drafts = none) (v : Summoning)
    (mishaps : SummonsMishaps) :
    u.run (.create mishaps.file.create :: (v.finishNow mishaps.file ++ [.ring mishaps.signal]))
      = u.move (.ring mishaps.signal) := by
  rw [run_cons, move_create_of_draftless elsewhere, run_concat,
    run_finishNow_of_draftless elsewhere]

/-- A send that nobody overtakes comes to what it comes to in one go. -/
theorem run_sendNow (here : v.post = .resting) (mishaps : SummonsMishaps) :
    v.Ends (v.summons.send mishaps v.machine) (v.run (v.sendNow mishaps)) := by
  rw [sendNow, run_cons]
  cases owned : v.summons.file with
  | none =>
      cases seen : v.machine.directoryOf v.summons.target with
      | error failure =>
          have unseen : v.count.directory none = .error failure := seen
          have missed : v.move (.send none) = v.count.report { answer := .error failure } := by
            simp only [move, send, here, owned, unseen]
          rw [missed, run_create_of_draftless rfl, move_ring_of_resting rfl]
          simp only [Summons.send, owned, Summons.publish, Machine.directoryOf_attempts, seen]
          exact ⟨rfl, rfl, rfl, rfl, _, _, rfl⟩
      | ok home =>
          let name := Utf8.encode
            (AttachFile.name v.summons.target v.machine.client v.machine.attempts)
          let begun : Summoning := { v.count with post := .naming name }
          have visible : v.count.directory none = .ok home := seen
          have begins : v.move (.send none) = begun := by
            simp only [move, send, here, owned, visible]
            rfl
          have same : v.finishNow mishaps.file = begun.finishNow mishaps.file := rfl
          rw [begins, same, ← List.cons_append, run_concat, run_file rfl]
          simp only [Summons.send, owned, Summons.publish, Machine.directoryOf_attempts, seen]
          change v.Ends _ ((begun.filed name (OwnedFile.publish mishaps.file v.machine.workdir name
            (Utf8.encode v.summons.channel))).move _)
          rcases OwnedFile.publish mishaps.file v.machine.workdir name
            (Utf8.encode v.summons.channel) with ⟨fault | file, w⟩
          · simp only [filed]
            rw [move_ring_of_resting rfl]
            exact ⟨rfl, rfl, rfl, rfl, _, _, rfl⟩
          · have rung : (begun.filed name (.ok file, w)).post = .ringing true := rfl
            have ends := ends_ring rung mishaps.signal
            exact ⟨ends.post, ends.summons, ends.machine, ends.sweeps, ends.sent⟩
  | some file =>
      cases there : file.exists? v.machine.workdir with
      | error fault =>
          have ended : v.move (.send none) = v.report { answer := .error (.io fault) } := by
            simp only [move, send, here, owned, there]
          rw [ended, run_create_of_draftless rfl, move_ring_of_resting rfl]
          simp only [Summons.send, owned, there]
          exact ⟨rfl, rfl, rfl, rfl, _, _, rfl⟩
      | ok still =>
          cases still with
          | false =>
              have ended : v.move (.send none) = v.report { answer := .ok () } := by
                simp only [move, send, here, owned, there]
              rw [ended, run_create_of_draftless rfl, move_ring_of_resting rfl]
              simp only [Summons.send, owned, there]
              exact ⟨rfl, rfl, rfl, rfl, _, _, rfl⟩
          | true =>
              have found : v.move (.send none) = { v with post := .ringing false } := by
                simp only [move, send, here, owned, there]
              rw [found, run_create_of_draftless rfl]
              simp only [Summons.send, owned, there]
              let seen : Summoning := { v with post := .ringing false }
              have rung : seen.post = .ringing false := rfl
              have ends := ends_ring rung mishaps.signal
              exact ⟨ends.post, ends.summons, ends.machine, ends.sweeps, ends.sent⟩

end Summoning

end AttachService
