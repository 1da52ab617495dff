/-
Module: AttachService.Proofs.Summoning.Sparing
Purpose: A summons publishes one file at most, signals only with cause, falls silent once the file
  is claimed, and leaves nothing behind.
Trusted boundary: none
Main exports: Summoning.Cause, Summoning.cause_of_ringing, Summoning.Sparing,
  Summoning.summons_sparingly
-/
import AttachService.Proofs.Summoning.Appearing
import AttachService.Proofs.Summoning.Silence

namespace AttachService

namespace Summoning

variable {first v after : Summoning} {m : SummoningMove} {moves : List SummoningMove}

/-- Why the process may be signalled after these moves.  No send has ended since, so it is the one
that is under way that has a reason to. -/
inductive Cause (first : Summoning) (moves : List SummoningMove) : Prop where
  /-- The send that is under way has seen the file. -/
  | seen {before rest : List SummoningMove} {mishap : Option SummonsFailure} {file : OwnedFile}
      (split : moves = before ++ .send mishap :: rest)
      (begins : (first.run before).post = .resting)
      (owned : (first.run before).summons.file = some file)
      (there : file.exists? (first.run before).machine.workdir = .ok true)
      (since : (first.run moves).sent = (first.run before).sent)
  /-- The send that is under way has published the file. -/
  | published {before rest : List SummoningMove} {mishap : Option Fault} {name : Name}
      (split : moves = before ++ .publish mishap :: rest)
      (unpublished : (first.run before).published = [])
      (publishes : (first.run (before ++ [.publish mishap])).published = [name])
      (since : (first.run moves).sent = (first.run before).sent)

/-- As long as the send does not end, its reason stands. -/
theorem Cause.more (cause : Cause first moves)
    (same : (first.run (moves ++ [m])).sent = (first.run moves).sent) :
    Cause first (moves ++ [m]) := by
  cases cause with
  | @seen before rest mishap _ split begins owned there since =>
      have longer : moves ++ [m] = before ++ .send mishap :: (rest ++ [m]) := by
        rw [split, List.append_assoc, List.cons_append]
      exact .seen longer begins owned there (same.trans since)
  | @published before rest mishap _ split unpublished publishes since =>
      have longer : moves ++ [m] = before ++ .publish mishap :: (rest ++ [m]) := by
        rw [split, List.append_assoc, List.cons_append]
      exact .published longer unpublished publishes (same.trans since)

/-- How a send comes to the point of signalling the process. -/
theorem cause_of_step {fresh : Bool} (kept : Kept v (first.run moves))
    (earlier : ∀ fresh, (first.run moves).post = .ringing fresh → Cause first moves)
    (taken : (first.run moves).Step m (first.run (moves ++ [m])))
    (rings : (first.run (moves ++ [m])).post = .ringing fresh) : Cause first (moves ++ [m]) := by
  generalize result : first.run (moves ++ [m]) = after at taken rings
  cases taken with
  | miss | doubt | rest | fail | balk | dumb | ring => simp [report] at rings
  | begin | create | write => simp [reach] at rings
  | withdraw => simp at rings
  | see here owned there => exact .seen rfl here owned there (by rw [result])
  | @publish mishap name _ _ _ _ here promoted =>
      obtain ⟨-, unowned⟩ := kept.drafts name (by rw [here]; rfl)
      have unpublished := kept.published_eq unowned
      have publishes : (first.run (moves ++ [.publish mishap])).published = [name] := by
        rw [result, unpublished]
        rfl
      exact .published rfl unpublished publishes (by rw [result]; rfl)
  | sweep => exact (earlier fresh rings).more (by rw [result])

/-- Whoever is going to signal the process has a reason to. -/
theorem cause_of_ringing (target : UInt32) (channel : String) (machine : Machine)
    (moves : List SummoningMove) {fresh : Bool}
    (rings : ((start target channel machine).run moves).post = .ringing fresh) :
    Cause (start target channel machine) moves := by
  induction moves using List.reverseRecOn generalizing fresh with
  | nil => cases rings
  | append_singleton moves m ih =>
      have kept := kept_run target channel machine moves
      rcases ((start target channel machine).run moves).move_eq_or_step m with same | taken
      · rw [run_concat, same] at rings
        exact (ih rings).more (by rw [run_concat, same])
      · rw [← run_concat] at taken
        exact cause_of_step kept (fun _ => ih) taken rings

/-- Nothing signals the process but a send that has come to that point. -/
theorem ringing_of_quits (changed : (v.move m).machine.quits ≠ v.machine.quits) :
    ∃ fresh, v.post = .ringing fresh := by
  rcases v.move_eq_or_step m with same | taken
  · exact absurd (by rw [same]) changed
  · generalize v.move m = after at taken changed
    cases taken with
    | dumb here | ring here => exact ⟨_, here⟩
    | withdraw => exact absurd (v.summons.quits_withdraw v.machine) changed
    | _ => exact absurd rfl changed

/-- What a summons has come to after these moves of its owner and of the process. -/
structure Sparing (first : Summoning) (moves : List SummoningMove) : Prop where
  /-- One file at most is published, by one send. -/
  once : (first.run moves).published.length ≤ 1
  owned : (first.run moves).summons.file.toList.map OwnedFile.path = (first.run moves).published
  reported : (first.run moves).published.length
    = (first.run moves).sent.countP SendReport.published + (first.run moves).post.fresh
  /-- No other attach file appears, unless a link leads somebody astray. -/
  appears : first.machine.workdir.Unlinked → ∀ name, AttachFile.IsName name →
    (first.run moves).machine.workdir.holds name ≠ none →
      first.machine.workdir.holds name ≠ none ∨ name ∈ (first.run moves).published
  /-- Each send signals the process once or not at all, and reports it. -/
  quits : (first.run moves).machine.quits
    = first.machine.quits + (first.run moves).sent.countP SendReport.rang
  /-- Whatever comes next, the process is not signalled without cause. -/
  cause : ∀ m, ((first.run moves).move m).machine.quits ≠ (first.run moves).machine.quits →
    Cause first moves
  /-- After the file was claimed, no send does anything but end, whatever comes later. -/
  silence : (first.run moves).Claimed →
    ∀ later, Hushed (first.run moves) ((first.run moves).run later)
  /-- When the summons is given up, what was published goes away, if it can be removed. -/
  left : (first.run moves).post = .withdrawn → ∀ name ∈ (first.run moves).published, ∀ entry,
    (first.run moves).machine.workdir.holds name = some entry → entry.removeFault ≠ none

/-- A summons publishes one file at most, signals the process only if the file was published just
now or was seen, is silent once the file was claimed, and leaves nothing behind. -/
theorem summons_sparingly (target : UInt32) (channel : String) (machine : Machine)
    (moves : List SummoningMove) : Sparing (start target channel machine) moves := by
  have kept := kept_run target channel machine moves
  exact {
    once := by
      rw [← kept.owned, List.length_map]
      exact Option.length_toList_le
    owned := kept.owned
    reported := kept.reported
    appears := fun unlinked =>
      (appearing_run target channel machine unlinked moves).appears
    quits := kept.quits
    cause := by
      intro m changed
      obtain ⟨fresh, rings⟩ := ringing_of_quits changed
      exact cause_of_ringing target channel machine moves rings
    silence := fun claimed => hushed_run claimed kept
    left := kept.left }

/-- The process claims the file although it could not be signalled, and two more sends are
silent. -/
example :
    let summoning := start 4 "channel" { pid := 4, client := 7 }
    let sent := summoning.run (summoning.sendNow { signal := some ⟨.permissionDenied, ""⟩ })
    let claimed := sent.run (.list sent.machine.workdir.names :: List.replicate 3 (.proceed 0))
    let later := claimed.run (claimed.sendNow {} ++ claimed.sendNow {})
    sent.machine.workdir.names.length = 1 ∧ later.machine.workdir.names = []
      ∧ later.sent.length = 3 ∧ later.machine.quits = 0 := by
  decide +kernel

end Summoning

end AttachService
