/-
Module: AttachService.Proofs.Files.Undisturbed
Purpose: A client or a sweep that nobody overtakes does what one piece of code says in one go.
Trusted boundary: none
Main exports: Traffic.run_publish, Traffic.run_sweep
-/
import AttachService.Proofs.Files.Moves
import Mathlib.Algebra.Ring.Nat

namespace AttachService

namespace Workdir

variable {w after : Workdir} {place : Place} {path : List UInt8}

/-- Only what is put last at a place is there. -/
theorem put_put (w : Workdir) (place : Place) (entry other : Entry) :
    (w.put place entry).put place other = w.put place other := by
  simp only [put, erase, List.filter_append, List.filter_filter, Bool.and_self]
  simp

/-- A file is not among the folders that the home folder is in. -/
theorem outside_of_file {entry : Entry} {contents : List UInt8}
    (found : w.entry? place = some entry) (file : entry.kind = .file contents) :
    ¬ place.isPrefixOf w.home := by
  intro above
  rw [Workdir.entry?, if_pos above] at found
  cases found
  cases file

/-- Adding bytes in two pieces is adding them in one. -/
theorem append_append (w : Workdir) (place : Place) (first second : List UInt8) :
    (w.append place first).append place second = w.append place (first ++ second) := by
  cases found : w.entry? place with
  | none => simp [append, found]
  | some entry =>
      cases file : entry.kind with
      | file contents =>
          have put := (entryAt_put (outside_of_file found file)
            { entry with kind := .file (contents ++ first) } place).trans (if_pos rfl)
          simp [append, found, file, put, put_put]
      | folder | link | socket => simp [append, found, file]

/-- A file that has just been made is listed last, and adding nothing leaves it there. -/
theorem append_nil_of_create (created : w.create path = .ok (place, after)) :
    after.append place [] = after := by
  have settled : ∀ entry : Entry, ¬ place.isPrefixOf w.home →
      (w.put place { entry with kind := .file [] }).append place []
        = w.put place { entry with kind := .file [] } := by
    intro entry outside
    have put := (entryAt_put outside { entry with kind := .file [] } place).trans (if_pos rfl)
    simp [append, put, put_put]
  unfold create at created
  split at created
  · cases created
  · cases created
  · simp only at created
    split at created
    · next missing =>
        cases created
        refine settled { kind := .file [] } fun above => ?_
        rw [Workdir.entry?, if_pos above] at missing
        cases missing
    · next entry found =>
        split at created
        · next file =>
            cases created
            exact settled entry (outside_of_file found file)
        · cases created
        · cases created

end Workdir

namespace Traffic

variable {t : Traffic} {k : Nat} {v : Visitor} {sweep : Sweep}

/-! ### Clients -/

/-- Of two steps of one client, only what the second leaves is seen. -/
theorem reach_reach (t : Traffic) (k : Nat) (one two : Drafting) (w after : Workdir) :
    (t.reach k one w).reach k two after = t.reach k two after := by
  simp [reach, List.modify_modify_eq, Function.comp_def]

theorem getElem?_reach (found : t.visitors[k]? = some v) (drafting : Drafting) (w : Workdir) :
    (t.reach k drafting w).visitors[k]? = some { v with drafting := drafting } := by
  simp [reach, found]

/-- Pieces of any size make up what is written, as far as they go. -/
theorem run_write {w : Workdir} {place : Place} (settled : w.append place [] = w)
    (found : t.visitors[k]? = some v) (counts : List Nat) :
    ((t.reach k (.writing place 0) w).run (counts.map (.write k)))
      = t.reach k (.writing place (v.contents.take counts.sum).length)
          (w.append place (v.contents.take counts.sum)) := by
  induction counts using List.reverseRecOn with
  | nil => simp [settled]
  | append_singleton counts count ih =>
      rw [List.map_append, run_append, ih, List.map_singleton]
      change (t.reach k _ _).move (.write k count) = _
      simp only [move, getElem?_reach found, Option.elim_some, write, reach_reach]
      have piece : (v.contents.drop (v.contents.take counts.sum).length).take count
          = (v.contents.drop counts.sum).take count := by
        rw [List.length_take]
        rcases Nat.le_total counts.sum v.contents.length with short | long
        · rw [Nat.min_eq_left short]
        · rw [Nat.min_eq_right long, List.drop_length, List.drop_of_length_le long]
      have whole : v.contents.take counts.sum ++ (v.contents.drop counts.sum).take count
          = v.contents.take (counts ++ [count]).sum := by
        rw [List.sum_append, List.sum_singleton, List.take_add]
      rw [piece, ← whole, List.length_append]
      simp only [reach, Workdir.append_append]

/-- A client that nobody overtakes publishes its file as in one go, in pieces of any size. -/
theorem run_publish (found : t.visitors[k]? = some v) (here : v.drafting = .idle)
    {counts : List Nat} (enough : v.contents.length ≤ counts.sum) (mishap : Option Fault) :
    t.run (.create k :: (counts.map (.write k) ++ [.publish k mishap]))
      = match OwnedFile.publish { rename := mishap } t.workdir v.name v.contents with
        | (.ok _, w) => t.reach k .published w
        | (.error _, w) => t.reach k .failed w := by
  change (t.move (.create k)).run _ = _
  rw [run_append]
  simp only [move, found, Option.elim_some, create, here, OwnedFile.publish]
  cases created : t.workdir.create (OwnedFile.draft v.name) with
  | error fault =>
      have stuck : ∀ counts : List Nat, (t.reach k .failed t.workdir).run (counts.map (.write k))
          = t.reach k .failed t.workdir := by
        intro counts
        induction counts with
        | nil => rfl
        | cons count rest ih =>
            change ((t.reach k .failed t.workdir).move (.write k count)).run _ = _
            simp only [move, getElem?_reach found, Option.elim_some, write]
            exact ih
      simp only [stuck]
      change (t.reach k .failed t.workdir).move (.publish k mishap) = _
      simp only [move, getElem?_reach found, Option.elim_some, publish]
  | ok made =>
      obtain ⟨place, w⟩ := made
      simp only [run_write (Workdir.append_nil_of_create created) found,
        List.take_of_length_le enough]
      change (t.reach k _ _).move (.publish k mishap) = _
      simp only [move, getElem?_reach found, Option.elim_some, publish, Nat.lt_irrefl, if_false,
        reach_reach]
      rfl

/-! ### Sweeps -/

/-- Of two steps of one sweep, only what the second leaves is seen. -/
theorem carry_carry (t : Traffic) (k : Nat) (one two : Sweep) (w after : Workdir) :
    (t.carry k one w).carry k two after = t.carry k two after := by
  simp [carry]

theorem getElem?_carry (found : t.sweeps[k]? = some sweep) (later : Sweep) (w : Workdir) :
    (t.carry k later w).sweeps[k]? = some later :=
  List.getElem?_set_self (List.getElem?_eq_some_iff.1 found).1

/-- The next step of a sweep that goes on, said of the sweep alone. -/
theorem move_proceed (found : t.sweeps[k]? = some sweep) (going : sweep.ended = none) :
    t.move (.proceed k)
      = t.carry k (advance t.target t.workdir sweep).1 (advance t.target t.workdir sweep).2 := by
  simp [move, found, proceed, going]

/-- An entry that is meant and can be read takes two steps. -/
theorem run_two {entry : Name} {rest : List Name} {text : String}
    (found : t.sweeps[k]? = some sweep) (going : sweep.ended = none) (free : sweep.inHand = none)
    (next : sweep.ahead = entry :: rest) (meant : AttachFile.isFor t.target entry = true)
    (read : AttachFile.readText t.workdir entry = .ok text) :
    let taken : Sweep := { sweep with ahead := rest, inHand := some (entry, text) }
    t.run (List.replicate 2 (.proceed k))
      = t.carry k (advance t.target t.workdir taken).1 (advance t.target t.workdir taken).2 := by
  intro taken
  have first : t.move (.proceed k) = t.carry k taken t.workdir := by
    rw [move_proceed found going]
    simp [advance, free, next, meant, read, taken]
  change (t.move (.proceed k)).move (.proceed k) = _
  rw [first, move_proceed (getElem?_carry found taken t.workdir) going, carry_carry]
  rfl

/-- One or two steps bring a sweep past the next entry. -/
theorem run_entry {entry : Name} {rest : List Name} (found : t.sweeps[k]? = some sweep)
    (going : sweep.ended = none) (free : sweep.inHand = none)
    (next : sweep.ahead = entry :: rest) :
    ∃ n pairs, t.run (List.replicate n (.proceed k))
        = t.carry k { sweep with ahead := rest, yielded := sweep.yielded ++ pairs }
          (AttachFile.claimOne t.target t.workdir entry).2.1
      ∧ (AttachFile.claimOne t.target t.workdir entry).1.toList = pairs.map Prod.snd := by
  have one : t.run (List.replicate 1 (.proceed k)) = _ := move_proceed found going
  by_cases meant : AttachFile.isFor t.target entry = true
  · cases read : AttachFile.readText t.workdir entry with
    | error fault =>
        refine ⟨1, [], one.trans ?_, ?_⟩ <;>
          simp [advance, free, next, meant, read, AttachFile.claimOne]
    | ok text =>
        have two := run_two found going free next meant read
        cases removed : t.workdir.remove entry with
        | error fault =>
            refine ⟨2, [], two.trans ?_, ?_⟩ <;>
              simp [advance, free, meant, read, removed, AttachFile.claimOne]
        | ok w =>
            by_cases blank : Text.trim text = ""
            · refine ⟨2, [], two.trans ?_, ?_⟩ <;>
                simp [advance, free, meant, read, removed, blank, AttachFile.claimOne]
            · refine ⟨2, [(entry, Text.trim text)], two.trans ?_, ?_⟩ <;>
                simp [advance, free, meant, read, removed, blank, AttachFile.claimOne]
  · refine ⟨1, [], one.trans ?_, ?_⟩ <;> simp [advance, free, next, meant, AttachFile.claimOne]

/-- A sweep that nobody overtakes claims what it has listed as in one go. -/
theorem run_sweep (found : t.sweeps[k]? = some sweep) (going : sweep.ended = none)
    (free : sweep.inHand = none) :
    ∃ n pairs, t.run (List.replicate n (.proceed k))
        = t.carry k
          { ahead := []
            yielded := sweep.yielded ++ pairs
            ended := some .complete }
          (AttachFile.claimAll t.target t.workdir (sweep.ahead.map .ok)).workdir
      ∧ (AttachFile.claimAll t.target t.workdir (sweep.ahead.map .ok)).channels
        = .ok (pairs.map Prod.snd) := by
  obtain ⟨ahead, inHand, yielded, ended⟩ := sweep
  simp only at going free ⊢
  subst going free
  induction ahead generalizing t yielded with
  | nil =>
      refine ⟨1, [], ?_, rfl⟩
      rw [List.replicate_one, run, List.foldl_cons, List.foldl_nil, move_proceed found rfl]
      simp [advance, AttachFile.claimAll]
  | cons entry rest ih =>
      obtain ⟨n, pairs, ran, one⟩ := run_entry found rfl rfl rfl
      obtain ⟨more, others, ranOn, all⟩ :=
        ih (t := t.carry k ⟨rest, none, yielded ++ pairs, none⟩
          (AttachFile.claimOne t.target t.workdir entry).2.1) (yielded ++ pairs)
          (getElem?_carry found _ _)
      refine ⟨n + more, pairs ++ others, ?_, ?_⟩
      · rw [List.replicate_add, run_append, ran, ranOn, carry_carry, List.append_assoc]
        rfl
      · simp only [List.map_cons, AttachFile.claimAll]
        rw [List.map_append, ← one]
        simp only [carry] at all
        rw [all]
        rfl

end Traffic

end AttachService
