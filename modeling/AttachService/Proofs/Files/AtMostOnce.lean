/-
Module: AttachService.Proofs.Files.AtMostOnce
Purpose: Every attach file is claimed whole and at most once, and none that can be is forgotten.
Trusted boundary: none
Main exports: Traffic.Removed, Traffic.accounted_run, Traffic.Pending, Traffic.pending_run,
  Traffic.Claimed, Traffic.claimed_run
-/
import AttachService.Proofs.Files.Claiming

namespace AttachService.Traffic

/-!
That no file is yielded twice is carried by `Sound`: what has been yielded is gone from the
directory, and is never published again.  That none is forgotten takes two more invariants.
Every published file is accounted for: it is still there, or was yielded, or its client removed
it, or some listing broke off.  And a file that was there when a sweep listed the directory
stays pending with that sweep for as long as it is there.
-/

variable {t after : Traffic} {m : TrafficMove} {moves : List TrafficMove} {k : Nat} {v : Visitor}
  {name : Name} {contents : List UInt8} {text : String}

/-! ### Runs -/

/-- What every step between sound states preserves holds at the end of every run. -/
theorem run_preserves (Inv : Traffic → Prop)
    (step : ∀ {before m after}, Sound before → Step before m after → Inv before → Inv after)
    (sound : t.Sound) (orderly : (t.run moves).Orderly) (inv : Inv t) :
    (t.run moves).Sound ∧ Inv (t.run moves) := by
  induction moves using List.reverseRecOn with
  | nil => exact ⟨sound, inv⟩
  | append_singleton moves m ih =>
      rw [run_concat] at orderly ⊢
      obtain ⟨sound, inv⟩ := ih orderly.of_move
      refine ⟨sound.move m orderly, ?_⟩
      rcases move_eq_or_step sound.toOrderly sound.toDrafted m with same | changed
      · rw [same]
        exact inv
      · exact step sound changed inv

/-- A client keeps its number and its name. -/
theorem name_run (found : t.visitors[k]? = some v) (moves : List TrafficMove) :
    ∃ u, (t.run moves).visitors[k]? = some u ∧ u.name = v.name := by
  obtain ⟨more, names⟩ := names_run t moves
  have low : k < (t.visitors.map (·.name)).length := by
    rw [List.length_map]
    exact (List.getElem?_eq_some_iff.1 found).1
  have kept : (t.visitors.map (·.name) ++ more)[k]? = (t.visitors.map (·.name))[k]? :=
    List.getElem?_append_left low
  rw [names, List.getElem?_map, List.getElem?_map, found, Option.map_some] at kept
  obtain ⟨u, later, same⟩ := Option.map_eq_some_iff.1 kept
  exact ⟨u, later, same⟩

/-- No two clients use one name, so it stands for one text. -/
theorem Published.contents_eq {other : List UInt8} (orderly : t.Orderly)
    (published : t.Published name contents) (again : t.Published name other) :
    contents = other := by
  obtain ⟨v, member, -, rfl, rfl⟩ := published
  obtain ⟨u, member', -, same, rfl⟩ := again
  rw [orderly.eq_of_mem member member' same]

/-! ### Files that their clients remove -/

/-- The client with this number can still remove its file. -/
def TakesBack (t : Traffic) (k : Nat) : Prop :=
  ∃ v, t.visitors[k]? = some v ∧ t.workdir.holds v.name ≠ none
    ∧ (t.move (.withdraw k)).workdir.holds v.name = none

/-- With one of these moves the client with this number has removed its file. -/
def Removed (t : Traffic) (moves : List TrafficMove) (k : Nat) : Prop :=
  ∃ before later, moves = before ++ .withdraw k :: later ∧ (t.run before).TakesBack k

theorem Removed.concat (removed : t.Removed moves k) (m : TrafficMove) :
    t.Removed (moves ++ [m]) k := by
  obtain ⟨before, later, rfl, takes⟩ := removed
  exact ⟨before, later ++ [m], by simp, takes⟩

theorem removed_concat (takes : (t.run moves).TakesBack k) :
    t.Removed (moves ++ [.withdraw k]) k :=
  ⟨moves, [], rfl, takes⟩

/-- Taking a file back yields nothing. -/
theorem yields_withdraw (t : Traffic) (k : Nat) : (t.move (.withdraw k)).yields = t.yields := by
  cases found : t.visitors[k]? with
  | none => simp [move, found]
  | some v =>
      simp only [move, found, Option.elim_some, withdraw]
      split <;> rfl

/-- A client can only remove what it has published, and has then published it still. -/
theorem TakesBack.published (sound : t.Sound) (found : t.visitors[k]? = some v)
    (takes : t.TakesBack k) :
    (∃ contents, (t.move (.withdraw k)).Published v.name contents)
      ∧ t.workdir.holds v.name ≠ none ∧ (t.move (.withdraw k)).workdir.holds v.name = none := by
  obtain ⟨u, there, held, gone⟩ := takes
  obtain rfl := Option.some.inj (found.symm.trans there)
  refine ⟨?_, held, gone⟩
  have named := sound.named v (List.mem_of_getElem? found)
  rcases t.move_eq_or_step sound.toOrderly sound.toDrafted (.withdraw k) with same | step
  · rw [same] at gone
    exact absurd gone held
  · cases step.touches sound fun _ => named.ne_draft with
    | spare same => exact absurd (same.symm.trans gone) held
    | publish _ published => exact ⟨_, published⟩
    | takeBack there here =>
        obtain rfl := Option.some.inj (found.symm.trans there)
        have published : t.Published v.name v.contents :=
          ⟨v, List.mem_of_getElem? found, .inl here, rfl, rfl⟩
        exact ⟨_, published.step sound.toOrderly step⟩

/-- A published file that is gone without having been yielded is never yielded. -/
theorem unyielded_run (sound : t.Sound) (orderly : (t.run moves).Orderly)
    (published : t.Published name contents) (gone : t.workdir.holds name = none)
    (unyielded : ∀ channel, (name, channel) ∉ t.yields) (channel : String) :
    (name, channel) ∉ (t.run moves).yields := by
  refine (run_preserves (fun t => t.Published name contents ∧ t.workdir.holds name = none
    ∧ ∀ channel, (name, channel) ∉ t.yields) ?_ sound orderly ⟨published, gone, unyielded⟩).2.2.2
    channel
  rintro t m after sound step ⟨published, gone, unyielded⟩
  have named := published.isName sound.toOrderly
  refine ⟨published.step sound.toOrderly step,
    (step.touches sound fun _ => named.ne_draft).stays_away published gone, fun channel => ?_⟩
  rcases step.yields sound with fewer | ⟨own, text, -, -, held, -, more⟩
  · exact fun member => unyielded channel (fewer.subset member)
  · rw [more.mem_iff, List.mem_cons]
    rintro (new | old)
    · cases new
      exact held gone
    · exact unyielded channel old

/-- A file that its own client removes is not yielded, neither before nor after. -/
theorem Removed.unyielded (fresh : t.Fresh) (orderly : (t.run moves).Orderly)
    (removed : t.Removed moves k) (found : (t.run moves).visitors[k]? = some v)
    (channel : String) : (v.name, channel) ∉ (t.run moves).yields := by
  obtain ⟨before, later, rfl, takes⟩ := removed
  rw [run_append] at found orderly ⊢
  have sound := sound_run fresh orderly.of_run
  obtain ⟨u, there, held, gone⟩ := id takes
  obtain ⟨_, later, same⟩ := name_run there (.withdraw k :: later)
  obtain rfl := Option.some.inj (found.symm.trans later)
  rw [same]
  have next : ((t.run before).run [.withdraw k]).Orderly := Orderly.of_run orderly
  obtain ⟨⟨contents, published⟩, -⟩ := takes.published sound there
  refine unyielded_run (sound.move (.withdraw k) next) orderly published gone
    (fun channel member => ?_) channel
  rw [yields_withdraw] at member
  exact held (sound.yielded _ _ member).2

/-! ### Files that are accounted for -/

/-- A file is published by being given its name. -/
theorem Step.published (orderly : t.Orderly) (step : t.Step m after)
    (published : after.Published name contents) :
    t.Published name contents ∨ after.workdir.holds name ≠ none := by
  have reached : ∀ {k : Nat} {v : Visitor} {drafting : Drafting} {w : Workdir},
      t.visitors[k]? = some v → (t.reach k drafting w).Published name contents →
        t.Published name contents ∨ drafting = .published ∧ name = v.name
          ∨ drafting = .withdrawn ∧ name = v.name ∧ contents = v.contents := by
    rintro k v drafting w found ⟨u, member, finished, rfl, rfl⟩
    rcases (mem_reach_iff orderly found).1 member with rfl | ⟨member, -⟩
    · rcases finished with finished | finished
      · exact .inr (.inl ⟨finished, rfl⟩)
      · exact .inr (.inr ⟨finished, rfl, rfl⟩)
    · exact .inl ⟨u, member, finished, rfl, rfl⟩
  cases step with
  | visit own written =>
      obtain ⟨u, member, finished, rest⟩ := published
      rcases List.mem_append.1 member with member | new
      · exact .inl ⟨u, member, finished, rest⟩
      · obtain rfl := List.mem_singleton.1 new
        rcases finished with finished | finished <;> cases finished
  | create found | write found | fail found =>
      rcases reached found published with old | ⟨finished, -⟩ | ⟨finished, -⟩
      · exact .inl old
      · cases finished
      · cases finished
  | publish found _ _ _ made =>
      rcases reached found published with old | ⟨-, rfl⟩ | ⟨finished, -⟩
      · exact .inl old
      · exact .inr (by rw [reach, made.self]; simp)
      · cases finished
  | takeBack found here | giveUp found here =>
      rcases reached found published with old | ⟨finished, -⟩ | ⟨-, rfl, rfl⟩
      · exact .inl old
      · cases finished
      · exact .inl ⟨_, List.mem_of_getElem? found, .inl here, rfl, rfl⟩
  | list | pass | take | lose | drop | yield | complete | breakOff => exact .inl published

/-- A sweep that has ended does not change any more. -/
theorem Step.sweeps_of_ended (step : t.Step m after) {sweep : Sweep} (member : sweep ∈ t.sweeps)
    (ended : sweep.ended ≠ none) : sweep ∈ after.sweeps := by
  have stays : ∀ {k : Nat} {going later : Sweep}, t.sweeps[k]? = some going →
      going.ended = none → sweep ∈ t.sweeps.set k later := by
    intro k going later found open_
    obtain ⟨i, here⟩ := List.mem_iff_getElem?.1 member
    have apart : k ≠ i := by
      rintro rfl
      obtain rfl := Option.some.inj (found.symm.trans here)
      exact ended open_
    exact List.mem_iff_getElem?.2 ⟨i, (List.getElem?_set_ne apart).trans here⟩
  cases step with
  | visit | create | write | publish | fail | takeBack | giveUp => exact member
  | list => exact List.mem_append_left _ member
  | pass found going | take found going | lose found going | drop found going
  | yield found going | complete found going | breakOff found going => exact stays found going

/-- Some listing has broken off. -/
def Broken (t : Traffic) : Prop := ∃ sweep ∈ t.sweeps, sweep.ended = some .broken

/-- A sweep that has broken off stays so. -/
theorem Broken.step (step : t.Step m after) (broken : t.Broken) : after.Broken := by
  obtain ⟨sweep, member, ended⟩ := broken
  exact ⟨sweep, step.sweeps_of_ended member (by simp [ended]), ended⟩

/-- What has been yielded is lost only if the listing breaks off. -/
theorem Step.keeps (step : t.Step m after) {pair : Name × String} (member : pair ∈ t.yields) :
    pair ∈ after.yields ∨ after.Broken := by
  cases step with
  | visit | create | write | publish | fail | takeBack | giveUp => exact .inl member
  | list => exact .inl (by simpa [Traffic.yields] using member)
  | pass found | take found | lose found | drop found | complete found =>
      obtain ⟨front, back, before, now⟩ := yields_carry found
      rw [now]
      rw [before] at member
      exact .inl member
  | yield found =>
      obtain ⟨front, back, before, now⟩ := yields_carry found
      rw [now]
      rw [before] at member
      simp only [List.mem_append] at member ⊢
      exact .inl (member.imp_left (·.imp_right .inl))
  | breakOff found =>
      have low := (List.getElem?_eq_some_iff.1 found).1
      exact .inr ⟨_, List.mem_set low _, rfl⟩

/-- What has become of a published file: it is still there, or was yielded, or its client
removed it, or some listing broke off. -/
def Accounted (start : Traffic) (moves : List TrafficMove) (name : Name) (channel : String) :
    Prop :=
  (start.run moves).workdir.holds name ≠ none
    ∨ (name, channel) ∈ (start.run moves).yields
    ∨ (∃ k v, (start.run moves).visitors[k]? = some v ∧ v.name = name ∧ start.Removed moves k)
    ∨ (start.run moves).Broken

/-- Whatever happens, what has become of a published file is one of these. -/
theorem accounted_run (fresh : t.Fresh) (orderly : (t.run moves).Orderly)
    (published : (t.run moves).Published name contents)
    (decoded : Utf8.decode contents = some text) (named : Text.trim text ≠ "") :
    t.Accounted moves name (Text.trim text) := by
  induction moves using List.reverseRecOn with
  | nil =>
      obtain ⟨v, member, -⟩ := published
      rw [run_nil, fresh.visitors] at member
      cases member
  | append_singleton moves m ih =>
      rw [run_concat] at orderly published
      have sound := sound_run fresh orderly.of_move
      unfold Accounted at ih ⊢
      rw [run_concat]
      rcases (t.run moves).move_eq_or_step sound.toOrderly sound.toDrafted m with same | step
      · rw [same] at orderly published ⊢
        exact (ih orderly published).imp_right (.imp_right (.imp_left
          fun ⟨k, v, found, own, removed⟩ => ⟨k, v, found, own, removed.concat m⟩))
      · rcases step.published sound.toOrderly published with before | held
        · rcases ih sound.toOrderly before with held | member | ⟨k, v, found, own, removed⟩ | broken
          · have isName := before.isName sound.toOrderly
            cases step.touches sound fun _ => isName.ne_draft with
            | spare same => exact .inl (same ▸ held)
            | publish fresh => exact absurd before (fresh contents)
            | @takeBack k v _ _ found here own there gone =>
                subst own
                obtain ⟨u, later, same⟩ := name_run found [.withdraw k]
                exact .inr (.inr (.inl ⟨k, u, later, same, removed_concat ⟨v, found, held, gone⟩⟩))
            | claim found inHand gone passed =>
                obtain ⟨other, again, read⟩ :=
                  (sound.informed _ (List.mem_of_getElem? found)).inHand _ _ inHand
                rw [again.contents_eq sound.toOrderly before, decoded] at read
                cases read
                exact .inr (.inl (passed named))
          · exact (step.keeps member).elim (fun still => .inr (.inl still))
              fun broken => .inr (.inr (.inr broken))
          · obtain ⟨u, later, same⟩ := name_run found [m]
            exact .inr (.inr (.inl ⟨k, u, later, same.trans own, removed.concat m⟩))
          · exact .inr (.inr (.inr (broken.step step)))
        · exact .inl held

/-! ### Files that a sweep will come to -/

/-- The sweep has listed this file and not come past it yet, unless its listing broke off. -/
def Awaits (sweep : Sweep) (name : Name) : Prop :=
  sweep.ended = some .broken
    ∨ sweep.ended = none ∧ (name ∈ sweep.ahead ∨ ∃ text, sweep.inHand = some (name, text))

/-- A file that can be read and removed is there, and the sweep with this number awaits it. -/
structure Pending (t : Traffic) (k : Nat) (name : Name) : Prop where
  entry : ∃ entry, t.workdir.holds name = some entry ∧ entry.readFault = none
    ∧ entry.removeFault = none
  sweep : ∃ sweep, t.sweeps[k]? = some sweep ∧ Awaits sweep name

/-- A sweep that is not over has what it waits for before it or in its hands. -/
theorem Awaits.of_open {sweep : Sweep} (awaits : Awaits sweep name) (going : sweep.ended = none) :
    name ∈ sweep.ahead ∨ ∃ text, sweep.inHand = some (name, text) := by
  rcases awaits with broken | ⟨-, awaits⟩
  · rw [going] at broken
    cases broken
  · exact awaits

/-- A step of one sweep leaves all others waiting for what they waited for. -/
theorem awaits_set {sweeps : List Sweep} {i : Nat} {going later : Sweep}
    (awaited : ∃ sweep, sweeps[k]? = some sweep ∧ Awaits sweep name)
    (found : sweeps[i]? = some going) (goesOn : Awaits going name → Awaits later name) :
    ∃ sweep, (sweeps.set i later)[k]? = some sweep ∧ Awaits sweep name := by
  obtain ⟨sweep, here, awaits⟩ := awaited
  by_cases own : i = k
  · subst own
    obtain rfl := Option.some.inj (found.symm.trans here)
    exact ⟨later, List.getElem?_set_self (List.getElem?_eq_some_iff.1 found).1, goesOn awaits⟩
  · exact ⟨sweep, (List.getElem?_set_ne own).trans here, awaits⟩

/-- A published text without faults can be read. -/
theorem Sound.readText (sound : t.Sound) (meant : AttachFile.isFor t.target name = true)
    (published : t.Published name contents) (decoded : Utf8.decode contents = some text)
    {entry : Entry} (held : t.workdir.holds name = some entry) (readable : entry.readFault = none) :
    AttachFile.readText t.workdir name = .ok text := by
  obtain ⟨other, again, file⟩ := sound.whole name meant entry held
  obtain ⟨kind, readFault, removeFault⟩ := entry
  simp only at file readable
  subst file readable
  rw [← again.contents_eq sound.toOrderly published] at decoded
  have plain : ∀ entry, t.workdir.holds name = some entry → ∀ path, entry.kind ≠ .link path := by
    intro entry there path
    rw [held] at there
    cases there
    simp
  rw [AttachFile.readText, (Workdir.read_eq_ok_iff
    (published.isName sound.toOrderly).simple plain).2 ⟨_, held⟩]
  simp only [decoded]

/-- A file without faults can be removed. -/
theorem Sound.remove (sound : t.Sound) (meant : AttachFile.isFor t.target name = true)
    (published : t.Published name contents) {entry : Entry}
    (held : t.workdir.holds name = some entry) (removable : entry.removeFault = none) :
    ∃ w, t.workdir.remove name = .ok w := by
  obtain ⟨other, again, file⟩ := sound.whole name meant entry held
  refine ⟨_, (Workdir.remove_eq_ok_iff (published.isName sound.toOrderly).simple).2
    ⟨⟨entry, held, by simp [file], removable⟩, rfl⟩⟩

/-- As long as the file is there, a sweep that has yet to come to it either still has, or has
broken off. -/
theorem Pending.step (sound : t.Sound) (step : t.Step m after)
    (meant : AttachFile.isFor t.target name = true) (published : t.Published name contents)
    (decoded : Utf8.decode contents = some text) (pending : t.Pending k name)
    (held : after.workdir.holds name ≠ none) : after.Pending k name := by
  obtain ⟨⟨entry, there, readable, removable⟩, awaited⟩ := pending
  have isName := published.isName sound.toOrderly
  have same : after.workdir.holds name = t.workdir.holds name := by
    cases step.touches sound fun _ => isName.ne_draft with
    | spare same => exact same
    | publish fresh => exact absurd published (fresh contents)
    | takeBack _ _ _ _ gone | claim _ _ gone => exact absurd gone held
  refine ⟨⟨entry, same.trans there, readable, removable⟩, ?_⟩
  cases step with
  | visit | create | write | publish | fail | takeBack | giveUp => exact awaited
  | list =>
      obtain ⟨sweep, here, awaits⟩ := awaited
      refine ⟨sweep, ?_, awaits⟩
      rw [List.getElem?_append_left (List.getElem?_eq_some_iff.1 here).1]
      exact here
  | pass found going free next barred =>
      refine awaits_set awaited found fun awaits => .inr ⟨going, ?_⟩
      rcases awaits.of_open going with ahead | ⟨text, inHand⟩
      · rw [next] at ahead
        rcases List.mem_cons.1 ahead with rfl | later
        · exact absurd (sound.readText meant published decoded there readable) (barred meant _)
        · exact .inl later
      · rw [free] at inHand
        cases inHand
  | take found going free next =>
      refine awaits_set awaited found fun awaits => .inr ⟨going, ?_⟩
      rcases awaits.of_open going with ahead | ⟨text, inHand⟩
      · rw [next] at ahead
        rcases List.mem_cons.1 ahead with rfl | later
        · exact .inr ⟨_, rfl⟩
        · exact .inl later
      · rw [free] at inHand
        cases inHand
  | lose found going inHand kept =>
      refine awaits_set awaited found fun awaits => .inr ⟨going, ?_⟩
      rcases awaits.of_open going with ahead | ⟨text, holding⟩
      · exact .inl ahead
      · rw [inHand] at holding
        cases holding
        obtain ⟨w, removed⟩ := sound.remove meant published there removable
        exact absurd removed (kept w)
  | drop found going inHand removed | yield found going inHand removed =>
      refine awaits_set awaited found fun awaits => .inr ⟨going, ?_⟩
      rcases awaits.of_open going with ahead | ⟨text, holding⟩
      · exact .inl ahead
      · rw [inHand] at holding
        cases holding
        exact absurd (Workdir.alters_of_remove isName.simple removed).self held
  | complete found going free last =>
      refine awaits_set awaited found fun awaits => ?_
      rcases awaits.of_open going with ahead | ⟨text, inHand⟩
      · rw [last] at ahead
        cases ahead
      · rw [free] at inHand
        cases inHand
  | breakOff found => exact awaits_set awaited found fun _ => .inl rfl

/-- What a sweep has listed is pending with it, until it is gone. -/
theorem pending_run (sound : t.Sound) (orderly : (t.run moves).Orderly)
    (meant : AttachFile.isFor t.target name = true) (published : t.Published name contents)
    (decoded : Utf8.decode contents = some text)
    (pending : t.workdir.holds name = none ∨ t.Pending k name) :
    (t.run moves).workdir.holds name = none ∨ (t.run moves).Pending k name := by
  refine (run_preserves (fun t => AttachFile.isFor t.target name = true
    ∧ t.Published name contents ∧ (t.workdir.holds name = none ∨ t.Pending k name)) ?_ sound
    orderly ⟨meant, published, pending⟩).2.2.2
  rintro t m after sound step ⟨meant, published, pending⟩
  have named := published.isName sound.toOrderly
  refine ⟨by rw [target_of_step step]; exact meant, published.step sound.toOrderly step, ?_⟩
  rcases pending with gone | pending
  · exact .inl ((step.touches sound fun _ => named.ne_draft).stays_away published gone)
  · by_cases held : after.workdir.holds name = none
    · exact .inl held
    · exact .inr (pending.step sound step meant published decoded held)

/-- A sweep that begins while a file is there has it before it. -/
theorem pending_list {listing : List Name} (all : listing.Perm t.workdir.names) {entry : Entry}
    (held : t.workdir.holds name = some entry) (readable : entry.readFault = none)
    (removable : entry.removeFault = none) :
    (t.move (.list listing)).Pending t.sweeps.length name := by
  have listed : name ∈ listing := all.mem_iff.2 (Workdir.mem_names_iff.2 (by simp [held]))
  rw [move, if_pos all]
  exact {
    entry := ⟨entry, held, readable, removable⟩
    sweep := ⟨{ ahead := listing }, by simp, .inr ⟨rfl, .inl listed⟩⟩ }

/-! ### Claiming -/

/-- What sweeps make of what clients publish, in the course of these moves. -/
structure Claimed (start : Traffic) (moves : List TrafficMove) : Prop where
  /-- Every channel name that is yielded is all that one client has published, trimmed. -/
  whole : ∀ name channel, (name, channel) ∈ (start.run moves).yields →
    ∃ v ∈ (start.run moves).visitors, v.name = name ∧ v.Finished
      ∧ ∃ text, Utf8.decode v.contents = some text ∧ channel = Text.trim text ∧ channel ≠ ""
  /-- No file is yielded twice, neither by one sweep nor by two. -/
  once : ((start.run moves).yields.map Prod.fst).Nodup
  /-- No file is yielded that its own client removes. -/
  removed : ∀ k v, (start.run moves).visitors[k]? = some v → start.Removed moves k →
    ∀ channel, (v.name, channel) ∉ (start.run moves).yields
  /-- When all sweeps are complete, one of them has yielded every file that was published before
  a listing, if there is a name in it, and nothing and nobody kept the sweeps from it. -/
  all : (∀ sweep ∈ (start.run moves).sweeps, sweep.ended = some .complete) →
    ∀ before listing later, moves = before ++ .list listing :: later →
    listing.Perm (start.run before).workdir.names →
    ∀ k v text client attempt, (start.run before).visitors[k]? = some v → v.Finished →
    v.name = Utf8.encode (AttachFile.name start.target client attempt) →
    Utf8.decode v.contents = some text → Text.trim text ≠ "" →
    (∀ entry, (start.run before).workdir.holds v.name = some entry →
      entry.readFault = none ∧ entry.removeFault = none) →
    ¬ start.Removed moves k →
    ∃! i : Nat, ∃ sweep, (start.run moves).sweeps[i]? = some sweep
      ∧ (v.name, Text.trim text) ∈ sweep.yielded

/-- Only one sweep can have yielded a file. -/
theorem existsUnique_of_mem_yields (once : (t.yields.map Prod.fst).Nodup) {pair : Name × String}
    (member : pair ∈ t.yields) :
    ∃! i : Nat, ∃ sweep, t.sweeps[i]? = some sweep ∧ pair ∈ sweep.yielded := by
  obtain ⟨sweep, among, yielded⟩ := List.mem_flatMap.1 member
  obtain ⟨i, found⟩ := List.mem_iff_getElem?.1 among
  refine ⟨i, ⟨sweep, found, yielded⟩, ?_⟩
  rintro j ⟨other, found', yielded'⟩
  obtain ⟨low, rfl⟩ := List.getElem?_eq_some_iff.1 found
  obtain ⟨low', rfl⟩ := List.getElem?_eq_some_iff.1 found'
  have apart := (List.nodup_flatMap.1 (List.Nodup.of_map Prod.fst once)).2
  rw [List.pairwise_iff_getElem] at apart
  rcases Nat.lt_trichotomy j i with below | same | above
  · exact absurd yielded (apart j i low' low below yielded')
  · exact same
  · exact absurd yielded' (apart i j low low' above yielded)

/-- A published file that a sweep lists is gone when all sweeps are complete, unless something
keeps the sweeps from reading or removing it. -/
theorem gone_of_complete (sound : t.Sound) {listing : List Name}
    (orderly : (t.run (.list listing :: moves)).Orderly) (all : listing.Perm t.workdir.names)
    (meant : AttachFile.isFor t.target name = true) (published : t.Published name contents)
    (decoded : Utf8.decode contents = some text)
    (faultless : ∀ entry, t.workdir.holds name = some entry →
      entry.readFault = none ∧ entry.removeFault = none)
    (ended : ∀ sweep ∈ (t.run (.list listing :: moves)).sweeps, sweep.ended = some .complete) :
    (t.run (.list listing :: moves)).workdir.holds name = none := by
  have listed : t.move (.list listing)
      = { t with sweeps := t.sweeps ++ [{ ahead := listing }] } := if_pos all
  have next : (t.move (.list listing)).Sound := sound.move _ (Orderly.of_run orderly)
  have pending : (t.move (.list listing)).workdir.holds name = none
      ∨ (t.move (.list listing)).Pending t.sweeps.length name := by
    cases held : t.workdir.holds name with
    | none => exact .inl (by rw [listed]; exact held)
    | some entry =>
        obtain ⟨readable, removable⟩ := faultless entry held
        exact .inr (pending_list all held readable removable)
  rcases pending_run next orderly (by rw [listed]; exact meant) (by rw [listed]; exact published)
    decoded pending with gone | ⟨-, sweep, here, awaits⟩
  · exact gone
  · have complete := ended sweep (List.mem_of_getElem? here)
    rcases awaits with broken | ⟨going, -⟩
    · rw [broken] at complete
      cases complete
    · rw [going] at complete
      cases complete

/-- Whatever clients and sweeps do, in whatever order: every file is claimed whole and at most
once, and what can be claimed is. -/
theorem claimed_run (fresh : t.Fresh) (orderly : (t.run moves).Orderly) : t.Claimed moves := by
  have sound := sound_run fresh orderly
  refine ⟨fun name channel member => ?_, sound.once,
    fun k v found removed => removed.unyielded fresh orderly found, ?_⟩
  · obtain ⟨⟨contents, text, ⟨v, among, finished, own, rfl⟩, decoded, rfl, named⟩, -⟩ :=
      sound.yielded name channel member
    exact ⟨v, among, own, finished, text, decoded, rfl, named⟩
  · rintro ended before listing later rfl all k v text client attempt found finished named decoded
      nonblank faultless unremoved
    refine existsUnique_of_mem_yields sound.once ?_
    rw [run_append] at orderly ended ⊢
    have first := sound_run fresh orderly.of_run
    have published : (t.run before).Published v.name v.contents :=
      ⟨v, List.mem_of_getElem? found, finished, rfl, rfl⟩
    obtain ⟨-, target⟩ := run_preserves (fun later => later.target = t.target)
      (fun _ step same => (target_of_step step).trans same) fresh.sound orderly.of_run rfl
    have meant : AttachFile.isFor (t.run before).target v.name = true := by
      rw [target, named]
      exact AttachFile.isFor_name t.target client attempt
    have gone := gone_of_complete first orderly all meant published decoded faultless ended
    obtain ⟨-, still⟩ := run_preserves (fun later => later.Published v.name v.contents)
      (fun sound step => Published.step sound.toOrderly step) first orderly published
    have account : t.Accounted (before ++ .list listing :: later) v.name (Text.trim text) :=
      accounted_run fresh (by rw [run_append]; exact orderly) (by rw [run_append]; exact still)
        decoded nonblank
    rw [Accounted, run_append] at account
    rcases account with held | yielded | ⟨j, u, there, same, removed⟩ | ⟨sweep, member, broken⟩
    · exact absurd gone held
    · exact yielded
    · obtain ⟨w, here, own⟩ := name_run found (.list listing :: later)
      rw [orderly.eq_of_name here there (same.trans own.symm)] at removed
      exact absurd removed unremoved
    · have complete := ended sweep member
      rw [broken] at complete
      cases complete

/-- A directory with what an earlier client has left of a draft. -/
def littered : Traffic where
  target := 7
  workdir := { entries := [([OwnedFile.draft (Utf8.encode (AttachFile.name 7 1 0))],
    { kind := .file [0x2F] })] }

/-- Two clients publish their files.  Two sweeps list them in different orders and each take up
the one that they come to first; then the second client removes its file. -/
def crossing : List TrafficMove :=
  let first := Utf8.encode (AttachFile.name 7 1 0)
  let second := Utf8.encode (AttachFile.name 7 2 0)
  [.visit first (Utf8.encode "/a\n"), .visit second (Utf8.encode "/b\n"), .create 0, .write 0 1,
    .create 1, .write 0 2, .publish 0 none, .write 1 9, .publish 1 none, .list [second, first],
    .list [first, second], .proceed 0, .proceed 1, .withdraw 1, .proceed 1, .proceed 1,
    .proceed 1, .proceed 0, .proceed 0, .proceed 0, .proceed 0]

/-- The first client's file is yielded by one of the sweeps that have both seen it. -/
theorem claimed_run_crossing : littered.Fresh ∧ (littered.run crossing).Orderly
    ∧ ∃! i : Nat, ∃ sweep, (littered.run crossing).sweeps[i]? = some sweep
      ∧ (Utf8.encode (AttachFile.name 7 1 0), "/a") ∈ sweep.yielded := by
  have held : ∀ name entry, littered.workdir.holds name = some entry →
      name = OwnedFile.draft (Utf8.encode (AttachFile.name 7 1 0))
        ∧ entry = { kind := .file [0x2F] } := by
    intro name entry there
    simp only [Workdir.holds, Workdir.entry?, littered] at there
    by_cases same : name = OwnedFile.draft (Utf8.encode (AttachFile.name 7 1 0))
    · subst same
      simpa [eq_comm] using there
    · simp [List.lookup_cons, beq_false_of_ne same] at there
  have fresh : littered.Fresh := {
    visitors := rfl
    sweeps := rfl
    unclaimed := fun name meant => by
      cases there : littered.workdir.holds name with
      | none => rfl
      | some entry =>
          rw [(held name entry there).1, AttachFile.isFor_draft ⟨7, 1, 0, rfl⟩] at meant
          cases meant
    unlinked := fun name _ entry there path => by
      rw [(held _ entry there).2]
      simp }
  have names : (littered.run crossing).visitors.map (·.name)
      = [Utf8.encode (AttachFile.name 7 1 0), Utf8.encode (AttachFile.name 7 2 0)] := by
    decide +kernel
  have orderly : (littered.run crossing).Orderly := {
    named := fun v member => by
      have among : v.name ∈ (littered.run crossing).visitors.map (·.name) :=
        List.mem_map_of_mem member
      rw [names] at among
      simp only [List.mem_cons, List.not_mem_nil, or_false] at among
      rcases among with same | same
      · exact ⟨7, 1, 0, same⟩
      · exact ⟨7, 2, 0, same⟩
    distinct := by
      rw [names]
      decide +kernel }
  have readable : (littered.run (crossing.take 9)).workdir.holds
      (Utf8.encode (AttachFile.name 7 1 0)) = some { kind := .file (Utf8.encode "/a\n") } := by
    decide +kernel
  have unremoved : ¬ littered.Removed crossing 0 := by
    rintro ⟨before, later, cut, -⟩
    have member : TrafficMove.withdraw 0 ∈ crossing := by simp [cut]
    revert member
    decide +kernel
  refine ⟨fresh, orderly, ?_⟩
  exact (claimed_run fresh orderly).all (by decide +kernel) (crossing.take 9)
    [Utf8.encode (AttachFile.name 7 2 0), Utf8.encode (AttachFile.name 7 1 0)]
    (crossing.drop 10) rfl (by decide +kernel) 0
    ⟨Utf8.encode (AttachFile.name 7 1 0), Utf8.encode "/a\n", .published⟩ "/a\n" 1 0
    (by decide +kernel) (.inl rfl) rfl (by decide +kernel) (by decide +kernel)
    (fun entry there => by
      rw [readable] at there
      cases there
      exact ⟨rfl, rfl⟩) unremoved

end AttachService.Traffic
