/-
Module: AttachService.Proofs.Files.Moves
Purpose: All that a move of the traffic in a directory can come to, said once.
Trusted boundary: none
Main exports: Traffic.Orderly, Traffic.Drafted, Traffic.Step, Traffic.move_eq_or_step,
  Traffic.mem_reach_iff, Traffic.Orderly.of_run
-/
import Mathlib.Data.List.Induction
import Mathlib.Data.List.Nodup
import AttachService.Files.Traffic
import AttachService.Proofs.Files.Names

namespace AttachService

/-!
`Traffic.move` asks at every point whether the party that moves is there and at that point.
`Step` lists what is left when it is, and says of the directory only which of its names have
been given another entry.  That takes one fact about the drafts, `Drafted`, which `Step`
preserves in turn.
-/

/-- The client has got its file its name, whatever has become of the file since. -/
def Visitor.Finished (v : Visitor) : Prop := v.drafting = .published ∨ v.drafting = .withdrawn

namespace Traffic

/-- Every client has an attach file's name of its own. -/
structure Orderly (t : Traffic) : Prop where
  named : ∀ v ∈ t.visitors, AttachFile.IsName v.name
  distinct : (t.visitors.map (·.name)).Nodup

/-- What is at the names of drafts is what clients have written there, and no link to other
places. -/
structure Drafted (t : Traffic) : Prop where
  written : ∀ v ∈ t.visitors, ∀ place count, v.drafting = .writing place count →
    place = t.workdir.home ++ [OwnedFile.draft v.name]
      ∧ ∃ entry, t.workdir.holds (OwnedFile.draft v.name) = some entry
        ∧ entry.kind = .file (v.contents.take count)
  unlinked : ∀ name, AttachFile.IsName name → ∀ entry,
    t.workdir.holds (OwnedFile.draft name) = some entry → ∀ path, entry.kind ≠ .link path

/-- What a move that changes anything comes to. -/
inductive Step (t : Traffic) : TrafficMove → Traffic → Prop where
  | visit (name : Name) (contents : List UInt8) :
      Step t (.visit name contents) { t with visitors := t.visitors ++ [⟨name, contents, .idle⟩] }
  | create {k : Nat} {v : Visitor} {entry : Entry} {w : Workdir}
      (found : t.visitors[k]? = some v) (here : v.drafting = .idle)
      (made : t.workdir.Alters (OwnedFile.draft v.name) (some entry) w)
      (empty : entry.kind = .file []) :
      Step t (.create k)
        (t.reach k (.writing (t.workdir.home ++ [OwnedFile.draft v.name]) 0) w)
  | write {k count more : Nat} {v : Visitor} {place : Place} {entry : Entry} {w : Workdir}
      (found : t.visitors[k]? = some v) (here : v.drafting = .writing place count)
      (made : t.workdir.Alters (OwnedFile.draft v.name) (some entry) w) {total : Nat}
      (longer : entry.kind = .file (v.contents.take total)) :
      Step t (.write k more) (t.reach k (.writing place total) w)
  /-- The draft goes from one name to the other. -/
  | publish {k count : Nat} {mishap : Option Fault} {v : Visitor} {place : Place} {entry : Entry}
      {between w : Workdir} (found : t.visitors[k]? = some v)
      (here : v.drafting = .writing place count) (whole : entry.kind = .file v.contents)
      (cleared : t.workdir.Alters (OwnedFile.draft v.name) none between)
      (made : between.Alters v.name (some entry) w) :
      Step t (.publish k mishap) (t.reach k .published w)
  /-- A draft could not be made, or could not be given its name. -/
  | fail {m : TrafficMove} {k : Nat} {v : Visitor} {w : Workdir}
      (found : t.visitors[k]? = some v) (unfinished : ¬ v.Finished)
      (left : w = t.workdir ∨ t.workdir.Alters (OwnedFile.draft v.name) none w) :
      Step t m (t.reach k .failed w)
  /-- A client gives a file up that is still there. -/
  | takeBack {k : Nat} {v : Visitor} {entry : Entry} {w : Workdir}
      (found : t.visitors[k]? = some v) (here : v.drafting = .published)
      (held : t.workdir.holds v.name = some entry) (gone : t.workdir.Alters v.name none w) :
      Step t (.withdraw k) (t.reach k .withdrawn w)
  /-- A client gives a file up that is gone, or cannot be removed. -/
  | giveUp {k : Nat} {v : Visitor}
      (found : t.visitors[k]? = some v) (here : v.drafting = .published) :
      Step t (.withdraw k) (t.reach k .withdrawn t.workdir)
  | list {listing : List Name} (all : listing.Perm t.workdir.names) :
      Step t (.list listing) { t with sweeps := t.sweeps ++ [{ ahead := listing }] }
  /-- An entry is for somebody else, or cannot be read. -/
  | pass {k : Nat} {sweep : Sweep} {entry : Name} {ahead : List Name}
      (found : t.sweeps[k]? = some sweep) (going : sweep.ended = none)
      (free : sweep.inHand = none) (next : sweep.ahead = entry :: ahead)
      (barred : AttachFile.isFor t.target entry = true →
        ∀ text, AttachFile.readText t.workdir entry ≠ .ok text) :
      Step t (.proceed k) (t.carry k { sweep with ahead := ahead } t.workdir)
  | take {k : Nat} {sweep : Sweep} {entry : Name} {ahead : List Name} {text : String}
      (found : t.sweeps[k]? = some sweep) (going : sweep.ended = none)
      (free : sweep.inHand = none) (next : sweep.ahead = entry :: ahead)
      (meant : AttachFile.isFor t.target entry = true)
      (read : AttachFile.readText t.workdir entry = .ok text) :
      Step t (.proceed k)
        (t.carry k { sweep with ahead := ahead, inHand := some (entry, text) } t.workdir)
  /-- The entry that was read cannot be removed, perhaps because somebody else has done so. -/
  | lose {k : Nat} {sweep : Sweep} {entry : Name} {text : String}
      (found : t.sweeps[k]? = some sweep) (going : sweep.ended = none)
      (inHand : sweep.inHand = some (entry, text))
      (kept : ∀ w, t.workdir.remove entry ≠ .ok w) :
      Step t (.proceed k) (t.carry k { sweep with inHand := none } t.workdir)
  /-- The entry is removed, and there is nothing in it. -/
  | drop {k : Nat} {sweep : Sweep} {entry : Name} {text : String} {w : Workdir}
      (found : t.sweeps[k]? = some sweep) (going : sweep.ended = none)
      (inHand : sweep.inHand = some (entry, text)) (removed : t.workdir.remove entry = .ok w)
      (blank : Text.trim text = "") :
      Step t (.proceed k) (t.carry k { sweep with inHand := none } w)
  | yield {k : Nat} {sweep : Sweep} {entry : Name} {text : String} {w : Workdir}
      (found : t.sweeps[k]? = some sweep) (going : sweep.ended = none)
      (inHand : sweep.inHand = some (entry, text)) (removed : t.workdir.remove entry = .ok w)
      (named : Text.trim text ≠ "") :
      Step t (.proceed k)
        (t.carry k
          { sweep with
            inHand := none
            yielded := sweep.yielded ++ [(entry, Text.trim text)] } w)
  | complete {k : Nat} {sweep : Sweep}
      (found : t.sweeps[k]? = some sweep) (going : sweep.ended = none)
      (free : sweep.inHand = none) (last : sweep.ahead = []) :
      Step t (.proceed k) (t.carry k { sweep with ended := some .complete } t.workdir)
  | breakOff {k : Nat} {sweep : Sweep}
      (found : t.sweeps[k]? = some sweep) (going : sweep.ended = none)
      (free : sweep.inHand = none) :
      Step t (.breakOff k) (t.carry k { ahead := [], ended := some .broken } t.workdir)

variable {t after : Traffic} {k : Nat} {v u : Visitor}

/-! ### The inversion -/

/-- A client that is new creates its draft, or fails to. -/
theorem eq_or_step_create (named : AttachFile.IsName v.name) (drafted : t.Drafted)
    (found : t.visitors[k]? = some v) :
    t.create k v = t ∨ t.Step (.create k) (t.create k v) := by
  unfold create
  split
  · next here =>
      split
      · next place w created =>
          obtain ⟨rfl, entry, made⟩ :=
            Workdir.create_of_simple named.simple_draft (drafted.unlinked _ named) created
          exact .inr (.create found here made rfl)
      · next =>
          refine .inr (.fail found (fun finished => ?_) (.inl rfl))
          rcases finished with finished | finished <;> rw [here] at finished <;> cases finished
  · exact .inl rfl

/-- A client that has a draft writes the next of its bytes to it. -/
theorem eq_or_step_write (drafted : t.Drafted) (found : t.visitors[k]? = some v) (count : Nat) :
    t.write k v count = t ∨ t.Step (.write k count) (t.write k v count) := by
  unfold write
  split
  · next place done here =>
      obtain ⟨rfl, entry, held, contents⟩ :=
        drafted.written v (List.mem_of_getElem? found) _ _ here
      refine .inr (.write found here (Workdir.append_of_file held contents _) ?_)
      simp only [EntryKind.file.injEq]
      rw [List.take_add, List.length_take]
      congr 1
      rw [List.take_eq_take_min]
  · exact .inl rfl

/-- A draft that is given its name is gone from its own one. -/
theorem promote_eq_ok {w after : Workdir} {name : Name} {mishap : Option Fault} {file : OwnedFile}
    (named : AttachFile.IsName name)
    (promoted : OwnedFile.promote mishap w name = (.ok file, after)) :
    ∃ entry between, w.holds (OwnedFile.draft name) = some entry
      ∧ w.Alters (OwnedFile.draft name) none between ∧ between.Alters name (some entry) after := by
  cases mishap with
  | some fault =>
      simp only [OwnedFile.promote] at promoted
      split at promoted <;> cases promoted
  | none =>
      simp only [OwnedFile.promote] at promoted
      split at promoted
      · next renamed =>
          cases promoted
          rw [Workdir.rename_of_simple named.simple_draft named.simple] at renamed
          split at renamed
          · cases renamed
          · next entry held =>
              obtain ⟨between, cleared, made⟩ := Workdir.move_eq_ok renamed
              exact ⟨entry, between, held, cleared, made⟩
      · split at promoted <;> cases promoted

/-- If that fails, the draft is removed, or stays if it does not let itself be. -/
theorem promote_eq_error {w after : Workdir} {name : Name} {mishap : Option Fault} {fault : Fault}
    (named : AttachFile.IsName name)
    (promoted : OwnedFile.promote mishap w name = (.error fault, after)) :
    after = w ∨ w.Alters (OwnedFile.draft name) none after := by
  unfold OwnedFile.promote at promoted
  simp only at promoted
  split at promoted
  · cases promoted
  · split at promoted
    · next removed =>
        cases promoted
        exact .inr (Workdir.alters_of_remove named.simple_draft removed)
    · cases promoted
      exact .inl rfl

/-- A client that has written all of them gives its draft the name, or fails to. -/
theorem eq_or_step_publish (named : AttachFile.IsName v.name) (drafted : t.Drafted)
    (found : t.visitors[k]? = some v) (mishap : Option Fault) :
    t.publish k mishap v = t ∨ t.Step (.publish k mishap) (t.publish k mishap v) := by
  unfold publish
  split
  · next place done here =>
      split
      · exact .inl rfl
      · next all =>
          obtain ⟨-, entry, held, contents⟩ :=
            drafted.written v (List.mem_of_getElem? found) _ _ here
          rw [List.take_of_length_le (Nat.not_lt.1 all)] at contents
          split
          · next file w promoted =>
              obtain ⟨draft, between, same, cleared, made⟩ := promote_eq_ok named promoted
              rw [held] at same
              cases same
              exact .inr (.publish found here contents cleared made)
          · next fault w promoted =>
              refine .inr (.fail found (fun finished => ?_) (promote_eq_error named promoted))
              rcases finished with finished | finished <;> rw [here] at finished <;>
                cases finished
  · exact .inl rfl

/-- A client that has published its file gives it up. -/
theorem eq_or_step_withdraw (named : AttachFile.IsName v.name) (found : t.visitors[k]? = some v) :
    t.withdraw k v = t ∨ t.Step (.withdraw k) (t.withdraw k v) := by
  unfold withdraw
  split
  · next here =>
      unfold OwnedFile.discard OwnedFile.adopt
      simp only
      split
      · next w removed =>
          obtain ⟨⟨entry, held, -⟩, -⟩ := (Workdir.remove_eq_ok_iff named.simple).1 removed
          exact .inr (.takeBack found here held (Workdir.alters_of_remove named.simple removed))
      · exact .inr (.giveUp found here)
  · exact .inl rfl

/-- A sweep goes on with what it has in its hands, or with what is before it. -/
theorem eq_or_step_proceed {sweep : Sweep} (found : t.sweeps[k]? = some sweep) :
    t.proceed k sweep = t ∨ t.Step (.proceed k) (t.proceed k sweep) := by
  unfold proceed
  split
  · exact .inl rfl
  · next going =>
      have going : sweep.ended = none := by simpa using going
      right
      generalize advanced : advance t.target t.workdir sweep = result
      obtain ⟨later, w⟩ := result
      unfold advance at advanced
      split at advanced
      · next entry text inHand =>
          split at advanced
          · next kept =>
              cases advanced
              exact .lose found going inHand fun w removed => by rw [removed] at kept; cases kept
          · next removed =>
              simp only at advanced
              split at advanced <;> cases advanced
              · next blank => exact .drop found going inHand removed blank
              · next named => exact .yield found going inHand removed named
      · next free last =>
          cases advanced
          exact .complete found going free last
      · next free next =>
          split at advanced
          · next meant =>
              split at advanced <;> cases advanced
              · next unread =>
                  exact .pass found going free next fun _ text read => by
                    rw [read] at unread; cases unread
              · next read => exact .take found going free next meant read
          · next other =>
              cases advanced
              exact .pass found going free next fun meant => absurd meant other

/-- A listing breaks off between two of its entries. -/
theorem eq_or_step_breakOff {sweep : Sweep} (found : t.sweeps[k]? = some sweep) :
    t.breakOff k sweep = t ∨ t.Step (.breakOff k) (t.breakOff k sweep) := by
  unfold breakOff
  split
  · exact .inl rfl
  · next open_ =>
      simp only [not_or, Option.isSome_iff_ne_none, not_not] at open_
      exact .inr (.breakOff found open_.1 open_.2)

/-- A move changes nothing, or it is one of the steps. -/
theorem move_eq_or_step (orderly : t.Orderly) (drafted : t.Drafted) (m : TrafficMove) :
    t.move m = t ∨ t.Step m (t.move m) := by
  have visitor : ∀ {k : Nat} {step : Visitor → Traffic},
      (∀ v, t.visitors[k]? = some v → AttachFile.IsName v.name → step v = t ∨ t.Step m (step v)) →
        (t.visitors[k]?).elim t step = t ∨ t.Step m ((t.visitors[k]?).elim t step) := by
    intro k step each
    cases found : t.visitors[k]? with
    | none => exact .inl rfl
    | some v => exact each v found (orderly.named v (List.mem_of_getElem? found))
  have sweeping : ∀ {k : Nat} {step : Sweep → Traffic},
      (∀ sweep, t.sweeps[k]? = some sweep → step sweep = t ∨ t.Step m (step sweep)) →
        (t.sweeps[k]?).elim t step = t ∨ t.Step m ((t.sweeps[k]?).elim t step) := by
    intro k step each
    cases found : t.sweeps[k]? with
    | none => exact .inl rfl
    | some sweep => exact each sweep found
  cases m with
  | visit name contents => exact .inr (.visit name contents)
  | create k => exact visitor fun v found named => eq_or_step_create named drafted found
  | write k count => exact visitor fun v found _ => eq_or_step_write drafted found count
  | publish k mishap =>
      exact visitor fun v found named => eq_or_step_publish named drafted found mishap
  | withdraw k => exact visitor fun v found named => eq_or_step_withdraw named found
  | list listing =>
      simp only [move]
      split
      · next all => exact .inr (.list all)
      · exact .inl rfl
  | proceed k => exact sweeping fun sweep found => eq_or_step_proceed found
  | breakOff k => exact sweeping fun sweep found => eq_or_step_breakOff found

/-! ### The clients after a move -/

/-- A client keeps its name. -/
@[simp] theorem names_reach (t : Traffic) (k : Nat) (drafting : Drafting) (w : Workdir) :
    (t.reach k drafting w).visitors.map (·.name) = t.visitors.map (·.name) := by
  apply List.ext_getElem?
  intro i
  simp only [reach, List.getElem?_map, List.getElem?_modify]
  by_cases same : k = i
  · cases t.visitors[i]? <;> simp [same]
  · simp [same]

/-- Clients with different numbers have different names. -/
theorem Orderly.eq_of_name {i : Nat} (orderly : t.Orderly) (found : t.visitors[k]? = some v)
    (other : t.visitors[i]? = some u) (same : u.name = v.name) : i = k := by
  have low : i < (t.visitors.map (·.name)).length := by
    rw [List.length_map]
    exact (List.getElem?_eq_some_iff.1 other).1
  refine (List.getElem?_inj low orderly.distinct).1 ?_
  rw [List.getElem?_map, List.getElem?_map, found, other, Option.map_some, Option.map_some, same]

/-- No two clients use one name. -/
theorem Orderly.eq_of_mem (orderly : t.Orderly) (one : v ∈ t.visitors) (other : u ∈ t.visitors)
    (same : u.name = v.name) : u = v := by
  obtain ⟨k, found⟩ := List.mem_iff_getElem?.1 one
  obtain ⟨i, found'⟩ := List.mem_iff_getElem?.1 other
  rw [orderly.eq_of_name found found' same, found] at found'
  exact (Option.some.inj found').symm

/-- When one client moves on, the others are those of other names. -/
theorem mem_reach_iff (orderly : t.Orderly) (found : t.visitors[k]? = some v) {drafting : Drafting}
    {w : Workdir} : u ∈ (t.reach k drafting w).visitors
      ↔ u = { v with drafting := drafting } ∨ u ∈ t.visitors ∧ u.name ≠ v.name := by
  simp only [reach, List.mem_iff_getElem?, List.getElem?_modify]
  constructor
  · rintro ⟨i, here⟩
    by_cases same : k = i
    · subst same
      rw [found] at here
      exact .inl (by simpa using here.symm)
    · simp only [if_neg same, Option.map_eq_map, Option.map_id'] at here
      exact .inr ⟨⟨i, here⟩, fun alike => same (orderly.eq_of_name found here alike).symm⟩
  · rintro (rfl | ⟨⟨i, here⟩, other⟩)
    · exact ⟨k, by simp [found]⟩
    · refine ⟨i, ?_⟩
      have apart : k ≠ i := by
        rintro rfl
        rw [found] at here
        cases here
        exact other rfl
      simp [apart, here]

/-- Clients are never forgotten, and keep their names. -/
theorem names_move (t : Traffic) (m : TrafficMove) :
    t.visitors.map (·.name) <+: (t.move m).visitors.map (·.name) := by
  have same : ∀ {after : Traffic},
      after.visitors.map (·.name) = t.visitors.map (·.name) →
        t.visitors.map (·.name) <+: after.visitors.map (·.name) :=
    fun names => names ▸ List.prefix_rfl
  cases m with
  | visit name contents => exact ⟨[name], by simp [move]⟩
  | list listing =>
      simp only [move]
      split <;> exact same rfl
  | create k | write k _ | publish k _ | withdraw k =>
      cases found : t.visitors[k]? with
      | none => exact same (by simp [move, found])
      | some v =>
          simp only [move, found, Option.elim_some, create, write, publish, withdraw]
          (repeat' split) <;> first
            | exact same (names_reach t k _ _)
            | exact same rfl
  | proceed k | breakOff k =>
      cases found : t.sweeps[k]? with
      | none => exact same (by simp [move, found])
      | some sweep =>
          simp only [move, found, Option.elim_some, proceed, breakOff]
          split <;> exact same rfl

@[simp] theorem run_nil (t : Traffic) : t.run [] = t := rfl

theorem run_append (t : Traffic) (first second : List TrafficMove) :
    t.run (first ++ second) = (t.run first).run second :=
  List.foldl_append

theorem run_concat (t : Traffic) (moves : List TrafficMove) (m : TrafficMove) :
    t.run (moves ++ [m]) = (t.run moves).move m :=
  t.run_append moves [m]

/-- Clients that were there are there still, in the order in which they came. -/
theorem names_run (t : Traffic) (moves : List TrafficMove) :
    t.visitors.map (·.name) <+: (t.run moves).visitors.map (·.name) := by
  induction moves using List.reverseRecOn with
  | nil => exact List.prefix_rfl
  | append_singleton moves m ih =>
      rw [run_concat]
      exact ih.trans (names_move (t.run moves) m)

/-- Names that are distinct in the end have always been. -/
theorem Orderly.of_run {moves : List TrafficMove} (orderly : (t.run moves).Orderly) :
    t.Orderly := by
  have among := names_run t moves
  exact {
    named := fun v member => by
      obtain ⟨u, later, same⟩ :=
        List.mem_map.1 (among.subset (List.mem_map_of_mem (f := (·.name)) member))
      rw [← same]
      exact orderly.named u later
    distinct := among.sublist.nodup orderly.distinct }

/-- No move makes up for two clients that use one name. -/
theorem Orderly.of_move {m : TrafficMove} (orderly : (t.move m).Orderly) : t.Orderly := by
  have last : (t.run [m]).Orderly := orderly
  exact last.of_run

/-- A directory is swept for one target only. -/
theorem target_of_step {m : TrafficMove} (step : t.Step m after) : after.target = t.target := by
  cases step <;> rfl

end Traffic

end AttachService
