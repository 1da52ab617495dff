/-
Module: AttachService.Proofs.Files.Claiming
Purpose: What holds at every moment while clients publish attach files and their target claims
  them.
Trusted boundary: none
Main exports: Traffic.Published, Traffic.yields, Traffic.Sound, Traffic.Touches,
  Traffic.Step.touches, Traffic.Sound.step, Traffic.sound_run
-/
import AttachService.Proofs.Files.Moves

namespace AttachService.Traffic

/-!
A name that means a finished file has an entry only between the moment when its client renames
the draft and the moment when somebody removes it.  In between the entry does not change.
`Touches` lists the moves that make a difference to it; that nothing else does is where drafts
having names of their own comes in.
-/

/-- A client has published these contents under this name, whatever has become of the file. -/
def Published (t : Traffic) (name : Name) (contents : List UInt8) : Prop :=
  ∃ v ∈ t.visitors, v.Finished ∧ v.name = name ∧ v.contents = contents

/-- What all sweeps have yielded, one sweep after the other. -/
def yields (t : Traffic) : List (Name × String) := t.sweeps.flatMap (·.yielded)

/-- What a sweep goes by is what clients have published. -/
structure Informs (t : Traffic) (sweep : Sweep) : Prop where
  ahead : ∀ name ∈ sweep.ahead, AttachFile.isFor t.target name = true →
    ∃ contents, t.Published name contents
  inHand : ∀ name text, sweep.inHand = some (name, text) →
    ∃ contents, t.Published name contents ∧ Utf8.decode contents = some text
  /-- A sweep that is complete has left nothing out. -/
  complete : sweep.ended = some .complete → sweep.ahead = [] ∧ sweep.inHand = none

/-- What holds of the traffic in a directory at every moment. -/
structure Sound (t : Traffic) : Prop extends Orderly t, Drafted t where
  /-- A finished file is all that its client had to say. -/
  whole : ∀ name, AttachFile.isFor t.target name = true → ∀ entry,
    t.workdir.holds name = some entry →
      ∃ contents, t.Published name contents ∧ entry.kind = .file contents
  informed : ∀ sweep ∈ t.sweeps, t.Informs sweep
  yielded : ∀ name channel, (name, channel) ∈ t.yields →
    (∃ contents text, t.Published name contents ∧ Utf8.decode contents = some text
      ∧ Text.trim text = channel ∧ channel ≠ "") ∧ t.workdir.holds name = none
  once : (t.yields.map Prod.fst).Nodup

variable {t after : Traffic} {m : TrafficMove} {k : Nat} {v : Visitor} {name : Name}
  {contents : List UInt8}

/-! ### What is published -/

/-- Only attach files are published. -/
theorem Published.isName (orderly : t.Orderly) (published : t.Published name contents) :
    AttachFile.IsName name := by
  obtain ⟨v, member, -, rfl, -⟩ := published
  exact orderly.named v member

/-- A client that goes on takes back nothing that others have published, nor what it has published
itself. -/
theorem Published.reach (orderly : t.Orderly) (found : t.visitors[k]? = some v)
    {drafting : Drafting} {w : Workdir}
    (keeps : v.Finished → ({ v with drafting := drafting } : Visitor).Finished)
    (published : t.Published name contents) : (t.reach k drafting w).Published name contents := by
  obtain ⟨u, member, finished, rfl, rfl⟩ := published
  by_cases same : u.name = v.name
  · obtain rfl := orderly.eq_of_mem (List.mem_of_getElem? found) member same
    exact ⟨_, (mem_reach_iff orderly found).2 (.inl rfl), keeps finished, rfl, rfl⟩
  · exact ⟨u, (mem_reach_iff orderly found).2 (.inr ⟨member, same⟩), finished, rfl, rfl⟩

theorem not_finished_of_eq (here : v.drafting ≠ .published) (there : v.drafting ≠ .withdrawn) :
    ¬ v.Finished := fun finished => finished.elim here there

/-- As long as a client is not done, its name stands for nothing. -/
theorem not_published (orderly : t.Orderly) (found : t.visitors[k]? = some v)
    (unfinished : ¬ v.Finished) : ¬ t.Published v.name contents := by
  rintro ⟨u, member, finished, same, -⟩
  obtain rfl := orderly.eq_of_mem (List.mem_of_getElem? found) member same
  exact unfinished finished

/-- What has been published stays so. -/
theorem Published.step (orderly : t.Orderly) (step : t.Step m after)
    (published : t.Published name contents) : after.Published name contents := by
  cases step with
  | visit name contents =>
      obtain ⟨u, member, rest⟩ := published
      exact ⟨u, List.mem_append_left _ member, rest⟩
  | create found here | write found here | publish found here =>
      refine published.reach orderly found fun finished => absurd finished ?_
      exact not_finished_of_eq (by simp [here]) (by simp [here])
  | fail found unfinished =>
      exact published.reach orderly found fun finished => absurd finished unfinished
  | takeBack found | giveUp found => exact published.reach orderly found fun _ => .inr rfl
  | list | pass | take | lose | drop | yield | complete | breakOff => exact published

/-! ### What becomes of the entry with a name -/

/-- What a move makes of the entry with a name, if that is not the name of a draft. -/
inductive Touches (t : Traffic) (name : Name) : TrafficMove → Traffic → Prop where
  | spare {m : TrafficMove} {after : Traffic}
      (same : after.workdir.holds name = t.workdir.holds name) : Touches t name m after
  /-- The client that the name belongs to renames its draft. -/
  | publish {m : TrafficMove} {after : Traffic} {contents : List UInt8} {entry : Entry}
      (fresh : ∀ contents, ¬ t.Published name contents)
      (published : after.Published name contents)
      (holds : after.workdir.holds name = some entry) (whole : entry.kind = .file contents) :
      Touches t name m after
  | takeBack {k : Nat} {v : Visitor} {entry : Entry} {after : Traffic}
      (found : t.visitors[k]? = some v) (here : v.drafting = .published) (own : v.name = name)
      (held : t.workdir.holds name = some entry) (gone : after.workdir.holds name = none) :
      Touches t name (.withdraw k) after
  | claim {k : Nat} {sweep : Sweep} {text : String} {after : Traffic}
      (found : t.sweeps[k]? = some sweep) (inHand : sweep.inHand = some (name, text))
      (gone : after.workdir.holds name = none)
      (passed : Text.trim text ≠ "" → (name, Text.trim text) ∈ after.yields) :
      Touches t name (.proceed k) after

/-- What one sweep yields next stands between what others have yielded, and they keep theirs. -/
theorem yields_carry {sweep : Sweep} (found : t.sweeps[k]? = some sweep) :
    ∃ front back, t.yields = front ++ sweep.yielded ++ back
      ∧ ∀ later w, (t.carry k later w).yields = front ++ later.yielded ++ back := by
  obtain ⟨low, rfl⟩ := List.getElem?_eq_some_iff.1 found
  refine ⟨(t.sweeps.take k).flatMap (·.yielded), (t.sweeps.drop (k + 1)).flatMap (·.yielded),
    ?_, fun later w => ?_⟩
  · have cut : t.sweeps = t.sweeps.take k ++ t.sweeps[k] :: t.sweeps.drop (k + 1) := by
      rw [List.getElem_cons_drop, List.take_append_drop]
    calc t.yields
      _ = (t.sweeps.take k ++ t.sweeps[k] :: t.sweeps.drop (k + 1)).flatMap (·.yielded) :=
          congrArg _ cut
      _ = _ := by rw [List.flatMap_append, List.flatMap_cons, List.append_assoc]
  · rw [yields, carry, List.set_eq_take_append_cons_drop, if_pos low, List.flatMap_append,
      List.flatMap_cons, List.append_assoc]

/-- A sweep has nothing in its hands but attach files. -/
theorem Sound.isName_inHand (sound : t.Sound) {sweep : Sweep} (found : t.sweeps[k]? = some sweep)
    {text : String} (inHand : sweep.inHand = some (name, text)) : AttachFile.IsName name := by
  obtain ⟨contents, published, -⟩ :=
    (sound.informed sweep (List.mem_of_getElem? found)).inHand name text inHand
  exact published.isName sound.toOrderly

/-- There are no other moves that make a difference to the entry with a name. -/
theorem Step.touches (sound : t.Sound) (step : t.Step m after)
    (apart : ∀ other, AttachFile.IsName other → name ≠ OwnedFile.draft other) :
    t.Touches name m after := by
  have orderly := sound.toOrderly
  have drafting : ∀ {k : Nat} {v : Visitor} {entry : Option Entry} {w : Workdir},
      t.visitors[k]? = some v → t.workdir.Alters (OwnedFile.draft v.name) entry w →
        w.holds name = t.workdir.holds name :=
    fun found made => made.others name (apart _ (orderly.named _ (List.mem_of_getElem? found)))
  cases step with
  | visit | list | pass | take | lose | complete | breakOff | giveUp => exact .spare rfl
  | create found here made | write found here made => exact .spare (drafting found made)
  | @publish k _ _ v _ _ _ _ found here whole cleared made =>
      by_cases own : name = v.name
      · subst own
        have unfinished := not_finished_of_eq (v := v) (by simp [here]) (by simp [here])
        refine .publish (fun contents => not_published orderly found unfinished) ?_ made.self whole
        exact ⟨_, (mem_reach_iff orderly found).2 (.inl rfl), .inl rfl, rfl, rfl⟩
      · exact .spare ((made.others name own).trans (drafting found cleared))
  | fail found unfinished left =>
      rcases left with rfl | cleared
      · exact .spare rfl
      · exact .spare (drafting found cleared)
  | @takeBack k v _ _ found here held gone =>
      by_cases own : name = v.name
      · subst own
        exact .takeBack found here rfl held gone.self
      · exact .spare (gone.others name own)
  | @drop k sweep entry _ _ found going inHand removed blank =>
      have gone := Workdir.alters_of_remove (sound.isName_inHand found inHand).simple removed
      by_cases own : name = entry
      · subst own
        exact .claim found inHand gone.self fun named => absurd blank named
      · exact .spare (gone.others name own)
  | @yield k sweep entry _ _ found going inHand removed named =>
      have gone := Workdir.alters_of_remove (sound.isName_inHand found inHand).simple removed
      by_cases own : name = entry
      · subst own
        refine .claim found inHand gone.self fun _ => ?_
        obtain ⟨front, back, -, written⟩ := yields_carry found
        rw [written]
        simp
      · exact .spare (gone.others name own)

/-- Once it is published and gone, a file never comes back. -/
theorem Touches.stays_away (touches : t.Touches name m after)
    (published : t.Published name contents) (gone : t.workdir.holds name = none) :
    after.workdir.holds name = none := by
  cases touches with
  | spare same => rw [same, gone]
  | publish fresh => exact absurd published (fresh contents)
  | takeBack _ _ _ _ gone | claim _ _ gone => exact gone

/-! ### The drafts after a move -/

/-- Drafts stay drafts when a client goes on that keeps to its own one. -/
theorem Drafted.reach (orderly : t.Orderly) (drafted : t.Drafted)
    (found : t.visitors[k]? = some v) {drafting : Drafting} {w : Workdir}
    (home : w.home = t.workdir.home)
    (others : ∀ name, AttachFile.IsName name → name ≠ v.name →
      w.holds (OwnedFile.draft name) = t.workdir.holds (OwnedFile.draft name))
    (unlinked : ∀ entry, w.holds (OwnedFile.draft v.name) = some entry →
      ∀ path, entry.kind ≠ .link path)
    (written : ∀ place count, drafting = .writing place count →
      place = w.home ++ [OwnedFile.draft v.name]
        ∧ ∃ entry, w.holds (OwnedFile.draft v.name) = some entry
          ∧ entry.kind = .file (v.contents.take count)) :
    (t.reach k drafting w).Drafted where
  written u member place count here := by
    rcases (mem_reach_iff orderly found).1 member with rfl | ⟨member, other⟩
    · exact written place count here
    · obtain ⟨rfl, held⟩ := drafted.written u member place count here
      rw [← others u.name (orderly.named u member) other] at held
      exact ⟨by rw [← home]; rfl, held⟩
  unlinked name named entry held := by
    by_cases own : name = v.name
    · subst own
      exact unlinked entry held
    · exact drafted.unlinked name named entry ((others name named own).symm.trans held)

/-- Drafts do not change when a finished file is removed. -/
theorem Drafted.carry (drafted : t.Drafted) (orderly : t.Orderly) {later : Sweep} {w : Workdir}
    (named : AttachFile.IsName name) (gone : t.workdir.Alters name none w) :
    (t.carry k later w).Drafted where
  written u member place count here := by
    obtain ⟨rfl, held⟩ := drafted.written u member place count here
    rw [← gone.others _ (named.ne_draft (orderly.named u member)).symm] at held
    exact ⟨congrArg (· ++ _) gone.home.symm, held⟩
  unlinked other isName entry held :=
    drafted.unlinked other isName entry
      ((gone.others _ (named.ne_draft isName).symm).symm.trans held)

/-- No move makes a link of a draft, or writes a draft other than from the front. -/
theorem Drafted.step (sound : t.Sound) (step : t.Step m after) : after.Drafted := by
  have orderly := sound.toOrderly
  have drafted := sound.toDrafted
  have own : ∀ {k : Nat} {v : Visitor}, t.visitors[k]? = some v → AttachFile.IsName v.name :=
    fun found => orderly.named _ (List.mem_of_getElem? found)
  have apart : ∀ {v : Visitor} {entry : Option Entry} {w : Workdir},
      t.workdir.Alters (OwnedFile.draft v.name) entry w → ∀ name, AttachFile.IsName name →
        name ≠ v.name → w.holds (OwnedFile.draft name) = t.workdir.holds (OwnedFile.draft name) :=
    fun made name _ other => made.others _ fun same => other (OwnedFile.draft_injective same)
  cases step with
  | visit name contents =>
      refine ⟨fun u member place count here => ?_, drafted.unlinked⟩
      rcases List.mem_append.1 member with member | new
      · exact drafted.written u member place count here
      · obtain rfl := List.mem_singleton.1 new
        cases here
  | create found here made empty =>
      refine drafted.reach orderly found made.home (apart made) (fun entry held path => ?_)
        fun place count here => ?_
      · cases made.self.symm.trans held
        simp [empty]
      · cases here
        exact ⟨by rw [made.home], _, made.self, empty⟩
  | write found here made longer =>
      obtain ⟨rfl, -⟩ := drafted.written _ (List.mem_of_getElem? found) _ _ here
      refine drafted.reach orderly found made.home (apart made) (fun entry held path => ?_)
        fun place count here => ?_
      · cases made.self.symm.trans held
        simp [longer]
      · cases here
        exact ⟨by rw [made.home], _, made.self, longer⟩
  | publish found here whole cleared made =>
      refine drafted.reach orderly found (made.home.trans cleared.home)
        (fun name isName other => ?_) (fun entry held => ?_) fun place count here => by cases here
      · rw [made.others _ ((own found).ne_draft isName).symm, apart cleared name isName other]
      · rw [made.others _ ((own found).ne_draft (own found)).symm, cleared.self] at held
        cases held
  | fail found unfinished left =>
      rcases left with rfl | cleared
      · exact drafted.reach orderly found rfl (fun _ _ _ => rfl)
          (drafted.unlinked _ (own found)) fun place count here => by cases here
      · refine drafted.reach orderly found cleared.home (apart cleared) (fun entry held => ?_)
          fun place count here => by cases here
        rw [cleared.self] at held
        cases held
  | takeBack found here held gone =>
      refine drafted.reach orderly found gone.home
        (fun name isName other => gone.others _ ((own found).ne_draft isName).symm)
        (fun entry held => ?_) fun place count here => by cases here
      rw [gone.others _ ((own found).ne_draft (own found)).symm] at held
      exact drafted.unlinked _ (own found) entry held
  | giveUp found here =>
      exact drafted.reach orderly found rfl (fun _ _ _ => rfl) (drafted.unlinked _ (own found))
        fun place count here => by cases here
  | list | pass | take | lose | complete | breakOff =>
      exact ⟨drafted.written, drafted.unlinked⟩
  | drop found going inHand removed | yield found going inHand removed =>
      have named := sound.isName_inHand found inHand
      exact drafted.carry orderly named (Workdir.alters_of_remove named.simple removed)

/-! ### The sweeps after a move -/

/-- A sweep that somebody overtakes still goes by what was published. -/
theorem Informs.step (orderly : t.Orderly) (step : t.Step m after) {sweep : Sweep}
    (informs : t.Informs sweep) : after.Informs sweep where
  ahead name member meant := by
    rw [target_of_step step] at meant
    obtain ⟨contents, published⟩ := informs.ahead name member meant
    exact ⟨contents, published.step orderly step⟩
  inHand name text inHand := by
    obtain ⟨contents, published, decoded⟩ := informs.inHand name text inHand
    exact ⟨contents, published.step orderly step, decoded⟩
  complete := informs.complete

/-- What is read under a published name is what was published. -/
theorem Sound.decode_of_readText (sound : t.Sound) (meant : AttachFile.isFor t.target name = true)
    (published : ∃ contents, t.Published name contents) {text : String}
    (read : AttachFile.readText t.workdir name = .ok text) :
    ∃ contents, t.Published name contents ∧ Utf8.decode contents = some text := by
  obtain ⟨some_, published⟩ := published
  have simple := (published.isName sound.toOrderly).simple
  have plain : ∀ entry, t.workdir.holds name = some entry → ∀ path, entry.kind ≠ .link path := by
    intro entry held path
    obtain ⟨contents, -, file⟩ := sound.whole name meant entry held
    simp [file]
  unfold AttachFile.readText at read
  split at read
  · cases read
  · next bytes found =>
      obtain ⟨fault, held⟩ := (Workdir.read_eq_ok_iff simple plain).1 found
      obtain ⟨contents, published, file⟩ := sound.whole name meant _ held
      cases file
      split at read
      · next decoded =>
          cases read
          exact ⟨bytes, published, decoded⟩
      · cases read

/-- The sweep that moves also goes by what was published. -/
theorem Sound.informed_step (sound : t.Sound) (step : t.Step m after) :
    ∀ sweep ∈ after.sweeps, after.Informs sweep := by
  have orderly := sound.toOrderly
  have still : ∀ sweep ∈ t.sweeps, after.Informs sweep :=
    fun sweep member => (sound.informed sweep member).step orderly step
  have replaced : ∀ {k : Nat} {later : Sweep}, after.sweeps = t.sweeps.set k later →
      after.Informs later → ∀ sweep ∈ after.sweeps, after.Informs sweep := by
    intro k later sweeps informs sweep member
    rw [sweeps] at member
    rcases List.mem_or_eq_of_mem_set member with old | rfl
    · exact still sweep old
    · exact informs
  cases step with
  | visit | create | write | publish | fail | takeBack | giveUp => exact still
  | list all =>
      intro sweep member
      rcases List.mem_append.1 member with old | new
      · exact still sweep old
      · obtain rfl := List.mem_singleton.1 new
        refine ⟨fun name listed meant => ?_, fun _ _ inHand => (by cases inHand),
          fun ended => by cases ended⟩
        obtain ⟨entry, held⟩ :=
          Option.isSome_iff_exists.1 (Workdir.mem_names_iff.1 (all.mem_iff.1 listed))
        obtain ⟨contents, published, -⟩ := sound.whole name meant entry held
        exact ⟨contents, published⟩
  | pass found going free next =>
      have before := still _ (List.mem_of_getElem? found)
      refine replaced rfl ⟨fun name member => ?_, before.inHand, fun ended => ?_⟩
      · exact before.ahead name (next ▸ List.mem_cons_of_mem _ member)
      · rw [going] at ended
        cases ended
  | take found going free next meant read =>
      have before := still _ (List.mem_of_getElem? found)
      refine replaced rfl ⟨fun name member => ?_, fun name text inHand => ?_, fun ended => ?_⟩
      · exact before.ahead name (next ▸ List.mem_cons_of_mem _ member)
      · cases inHand
        exact sound.decode_of_readText meant
          (before.ahead _ (next ▸ List.mem_cons_self) meant) read
      · rw [going] at ended
        cases ended
  | lose found going | drop found going | yield found going =>
      have before := still _ (List.mem_of_getElem? found)
      refine replaced rfl ⟨before.ahead, fun _ _ inHand => (by cases inHand), fun ended => ?_⟩
      rw [going] at ended
      cases ended
  | complete found going free last =>
      have before := still _ (List.mem_of_getElem? found)
      exact replaced rfl ⟨before.ahead, before.inHand, fun _ => ⟨last, free⟩⟩
  | breakOff found going free =>
      exact replaced rfl ⟨fun _ member => (by cases member), fun _ _ inHand => (by cases inHand),
        fun ended => by cases ended⟩

/-- What is yielded comes out of one sweep's hand, and is gone from the directory. -/
theorem Step.yields (sound : t.Sound) (step : t.Step m after) :
    after.yields.Sublist t.yields
      ∨ ∃ name text, (∃ contents, t.Published name contents ∧ Utf8.decode contents = some text)
        ∧ Text.trim text ≠ "" ∧ t.workdir.holds name ≠ none ∧ after.workdir.holds name = none
        ∧ after.yields.Perm ((name, Text.trim text) :: t.yields) := by
  cases step with
  | visit | create | write | publish | fail | takeBack | giveUp => exact .inl (List.Sublist.refl _)
  | list => exact .inl (by simp [Traffic.yields])
  | pass found | take found | lose found | drop found | complete found =>
      obtain ⟨front, back, before, now⟩ := yields_carry found
      rw [before, now]
      exact .inl (List.Sublist.refl _)
  | yield found going inHand removed named =>
      obtain ⟨front, back, before, now⟩ := yields_carry found
      have simple := (sound.isName_inHand found inHand).simple
      obtain ⟨⟨entry, held, -⟩, -⟩ := (Workdir.remove_eq_ok_iff simple).1 removed
      refine .inr ⟨_, _, (sound.informed _ (List.mem_of_getElem? found)).inHand _ _ inHand, named,
        by simp [held], (Workdir.alters_of_remove simple removed).self, ?_⟩
      rw [before, now, List.append_assoc, List.append_assoc, List.append_assoc,
        ← List.append_assoc front]
      exact List.perm_middle.trans (by simp)
  | breakOff found =>
      obtain ⟨front, back, before, now⟩ := yields_carry found
      rw [before, now, List.append_nil]
      exact .inl (List.sublist_append_left front _ |>.append (List.Sublist.refl back))

/-! ### Every moment -/

/-- A name that means a finished file is not that of a draft. -/
theorem Sound.apart_of_isFor {target : UInt32} (meant : AttachFile.isFor target name = true)
    (other : Name) (named : AttachFile.IsName other) : name ≠ OwnedFile.draft other := by
  rintro rfl
  rw [AttachFile.isFor_draft named] at meant
  cases meant

/-- What holds of the traffic holds of it after another move. -/
theorem Sound.step (sound : t.Sound) (step : t.Step m after) (orderly : after.Orderly) :
    after.Sound where
  toOrderly := orderly
  toDrafted := Drafted.step sound step
  whole name meant entry held := by
    rw [target_of_step step] at meant
    cases step.touches sound (Sound.apart_of_isFor meant) with
    | spare same =>
        rw [same] at held
        obtain ⟨contents, published, file⟩ := sound.whole name meant entry held
        exact ⟨contents, published.step sound.toOrderly step, file⟩
    | publish fresh published holds file =>
        rw [holds] at held
        cases held
        exact ⟨_, published, file⟩
    | takeBack _ _ _ _ gone | claim _ _ gone =>
        rw [gone] at held
        cases held
  informed := sound.informed_step step
  yielded name channel member := by
    have old : (name, channel) ∈ t.yields →
        (∃ contents text, after.Published name contents ∧ Utf8.decode contents = some text
          ∧ Text.trim text = channel ∧ channel ≠ "") ∧ after.workdir.holds name = none := by
      intro before
      obtain ⟨⟨contents, text, published, rest⟩, gone⟩ := sound.yielded name channel before
      have named := published.isName sound.toOrderly
      exact ⟨⟨contents, text, published.step sound.toOrderly step, rest⟩,
        (step.touches sound fun _ => named.ne_draft).stays_away published gone⟩
    rcases step.yields sound with
      fewer | ⟨own, text, ⟨contents, published, decoded⟩, named, -, gone, more⟩
    · exact old (fewer.subset member)
    · rcases List.mem_cons.1 (more.mem_iff.1 member) with new | before
      · cases new
        exact ⟨⟨contents, text, published.step sound.toOrderly step, decoded, rfl, named⟩, gone⟩
      · exact old before
  once := by
    rcases step.yields sound with fewer | ⟨own, text, -, -, held, -, more⟩
    · exact (fewer.map Prod.fst).nodup sound.once
    · rw [(more.map Prod.fst).nodup_iff, List.map_cons, List.nodup_cons]
      refine ⟨fun member => ?_, sound.once⟩
      obtain ⟨⟨_, channel⟩, before, rfl⟩ := List.mem_map.1 member
      exact held (sound.yielded _ _ before).2

/-- Nobody has come to the directory yet.  There is nothing in it for the target to claim, and
no link where a client will write. -/
structure Fresh (t : Traffic) : Prop where
  visitors : t.visitors = []
  sweeps : t.sweeps = []
  unclaimed : ∀ name, AttachFile.isFor t.target name = true → t.workdir.holds name = none
  unlinked : ∀ name, AttachFile.IsName name → ∀ entry,
    t.workdir.holds (OwnedFile.draft name) = some entry → ∀ path, entry.kind ≠ .link path

/-- Where nobody has come yet, the traffic is sound. -/
theorem Fresh.sound (fresh : t.Fresh) : t.Sound where
  named v member := by
    rw [fresh.visitors] at member
    cases member
  distinct := by
    rw [fresh.visitors]
    exact List.nodup_nil
  written v member := by
    rw [fresh.visitors] at member
    cases member
  unlinked := fresh.unlinked
  whole name meant entry held := by
    rw [fresh.unclaimed name meant] at held
    cases held
  informed sweep member := by
    rw [fresh.sweeps] at member
    cases member
  yielded name channel member := by
    rw [yields, fresh.sweeps] at member
    cases member
  once := by
    rw [yields, fresh.sweeps]
    exact List.nodup_nil

theorem Sound.move (sound : t.Sound) (m : TrafficMove) (orderly : (t.move m).Orderly) :
    (t.move m).Sound := by
  rcases t.move_eq_or_step sound.toOrderly sound.toDrafted m with same | step
  · rw [same]
    exact sound
  · exact sound.step step orderly

/-- The traffic is sound at every moment, as long as no two clients use one name. -/
theorem sound_run (fresh : t.Fresh) {moves : List TrafficMove} (orderly : (t.run moves).Orderly) :
    (t.run moves).Sound := by
  induction moves using List.reverseRecOn with
  | nil => exact fresh.sound
  | append_singleton moves m ih =>
      rw [run_concat] at orderly ⊢
      exact (ih orderly.of_move).move m orderly

end AttachService.Traffic
