/-
Module: AttachService.Proofs.Intake.Materializing
Purpose: When a queued request becomes a job, and the ways in which it is dropped instead.
Trusted boundary: none
Main exports: Event.opening?, Event.notice?, Submission.opening?, Submission.Serves,
  Submission.Drops, Submission.Fells, Submission.serves_or_drops_or_fells
-/
import AttachService.Intake.Next

namespace AttachService

/-- How the channel of a request of this version is opened. -/
def Version.mode : Version → OpenMode
  | .v1 => .writeOnly
  | .v2 => .readWrite

theorem Version.ofNumber?_eq_none_iff {n : UInt32} :
    ofNumber? n = none ↔ ∀ v : Version, n ≠ v.number := by
  rw [Option.eq_none_iff_forall_ne_some]
  constructor
  · intro unknown v same
    exact unknown v (ofNumber?_eq_some_iff.2 same)
  · intro unknown v known
    exact unknown v (ofNumber?_eq_some_iff.1 known)

/-- The opening that is seen, if it is one. -/
def Event.opening? : Event → Option (String × OpenMode)
  | .opening channel mode => some (channel, mode)
  | .notice _ => none

/-- The notice that is seen, if it is one. -/
def Event.notice? : Event → Option Notice
  | .opening .. => none
  | .notice reported => some reported

namespace Submission

/-- The opening that is made for a request, if its version is a known one. -/
def opening? (request : Submission) : Option (String × OpenMode) :=
  (Version.ofNumber? request.version).map fun v => (request.channel, v.mode)

/-- All that is seen of the opening that is made for a request. -/
def openings (request : Submission) : List Event :=
  request.opening?.toList.map fun (channel, mode) => .opening channel mode

variable {world : Type} [Transport world] {settings : Settings} {w after : world}
  {request : Submission} {job : Job} {notice : Notice} {channel : Channel} {v : Version}

/-- A known version has its channel opened, once. -/
theorem openings_of_version (version : request.version = v.number) :
    request.openings = [.opening request.channel v.mode] := by
  simp [openings, opening?, version]

/-- For any other version nothing is opened. -/
theorem openings_of_unknown (unknown : ∀ v : Version, request.version ≠ v.number) :
    request.openings = [] := by
  simp [openings, opening?, Version.ofNumber?_eq_none_iff.2 unknown]

/-- What is seen of an opening is that opening, and it goes before all later ones. -/
theorem opening?_openings_append (request : Submission) (others : List Submission) :
    request.openings.filterMap Event.opening? ++ others.filterMap opening?
      = (request :: others).filterMap opening? := by
  unfold openings
  cases known : request.opening? with
  | none =>
      rw [List.filterMap_cons_none known]
      rfl
  | some pair =>
      rw [List.filterMap_cons_some known]
      rfl

/-- To open a channel is not reported. -/
theorem notice?_openings (request : Submission) :
    request.openings.filterMap Event.notice? = [] := by
  unfold openings
  cases request.opening? with
  | none => rfl
  | some pair => simp [Event.notice?]

/-- A notice behind an opening is the first one. -/
theorem notice?_openings_append (request : Submission) (notice : Notice) (events : List Event) :
    (request.openings ++ .notice notice :: events).filterMap Event.notice?
      = notice :: events.filterMap Event.notice? := by
  rw [List.filterMap_append, notice?_openings, List.nil_append]
  rfl

/-- The request is of version `v`, and opening its channel in the way of that version
succeeds. -/
structure Opens (request : Submission) (v : Version) (w : world) (channel : Channel)
    (after : world) : Prop where
  version : request.version = v.number
  opened : Transport.openChannel w request.channel v.mode = (.opened channel, after)

/-- The request becomes a job: a version 1 request with what it carries inline, a version 2
request with what arrives on its channel in time, whatever it carries inline. -/
inductive Serves (settings : Settings) (w : world) (request : Submission) : Job → world → Prop where
  | inline {channel : Channel} {after : world} (opens : request.Opens .v1 w channel after) :
      Serves settings w request ⟨request.name, request.args.toList, channel⟩ after
  | onChannel {channel : Channel} {after : world} {source : Source} {name : String}
      {args : List String} (opens : request.Opens .v2 w channel after)
      (reads : Pending.readWithin settings.readMillis channel.source
        = (.ok ⟨.v2, name, args⟩, source)) :
      Serves settings w request ⟨name, args, { channel with source := source }⟩ after

/-- The request is dropped, with this notice.  A channel that was opened for it is given
back. -/
inductive Drops (settings : Settings) (w : world) (request : Submission) :
    Notice → world → Prop where
  | unsupported (unknown : ∀ v : Version, request.version ≠ v.number) :
      Drops settings w request (.unsupported request.version request.name) w
  | notOpened {v : Version} {fault : Fault} {after : world}
      (version : request.version = v.number)
      (failed : Transport.openChannel w request.channel v.mode = (.failed fault, after)) :
      Drops settings w request (.notOpened v.mode request.channel fault) after
  | unreadable {channel : Channel} {after : world} {source : Source} {flaw : Flaw}
      (opens : request.Opens .v2 w channel after)
      (reads : Pending.readWithin settings.readMillis channel.source
        = (.error (.flaw flaw), source)) :
      Drops settings w request (.unreadable request.channel flaw)
        (Transport.giveBack after { channel with source := source })
  /-- The request is not complete in time. -/
  | noRequest {channel : Channel} {after : world} {source : Source}
      (opens : request.Opens .v2 w channel after)
      (reads : Pending.readWithin settings.readMillis channel.source
        = (.error .silent, source)) :
      Drops settings w request (.noRequest request.channel settings.readMillis)
        (Transport.giveBack after { channel with source := source })
  | unexpectedVersion {channel : Channel} {after : world} {source : Source} {name : String}
      {args : List String} (opens : request.Opens .v2 w channel after)
      (reads : Pending.readWithin settings.readMillis channel.source
        = (.ok ⟨.v1, name, args⟩, source)) :
      Drops settings w request (.unexpectedVersion request.channel .v1)
        (Transport.giveBack after { channel with source := source })

/-- Opening the channel of the request takes the consumer down. -/
def Fells (request : Submission) (w after : world) : Prop :=
  ∃ v : Version, request.version = v.number
    ∧ Transport.openChannel w request.channel v.mode = (.panicked, after)

/-! ### What the consumer makes of each -/

theorem ofSubmission_inline (version : request.version = Version.v1.number) :
    Pending.ofSubmission request
      = .inline request.name request.args.toList request.channel := by
  rw [Pending.ofSubmission, version, Version.ofNumber?_number]

theorem ofSubmission_onChannel (version : request.version = Version.v2.number) :
    Pending.ofSubmission request = .onChannel request.channel := by
  rw [Pending.ofSubmission, version, Version.ofNumber?_number]

/-- Whatever comes after it, the channel of a request of a known version is opened first. -/
theorem materialize_eq_withChannel (version : request.version = v.number) (settings : Settings)
    (w : world) : ∃ use, (Pending.ofSubmission request).materialize settings w
      = Pending.withChannel request.channel v.mode w use := by
  cases v with
  | v1 =>
      rw [ofSubmission_inline version]
      exact ⟨fun opened w => (.job ⟨request.name, request.args.toList, opened⟩, w, []), rfl⟩
  | v2 =>
      rw [ofSubmission_onChannel version]
      exact ⟨Pending.readJob settings request.channel, rfl⟩

/-- What is read from its channel decides on a version 2 request. -/
theorem Opens.materialize_eq_readJob (opens : request.Opens .v2 w channel after)
    (settings : Settings) :
    (Pending.ofSubmission request).materialize settings w
      = match Pending.readJob settings request.channel channel after with
        | (result, w, events) => (result, w, request.openings ++ events) := by
  rw [ofSubmission_onChannel opens.version, openings_of_version opens.version]
  simp only [Pending.materialize, Pending.withChannel]
  have opened := opens.opened
  rw [Version.mode] at opened
  simp only [opened]
  rfl

/-- A request that can be served becomes its job, and nothing is reported. -/
theorem Serves.materialize_eq (serves : request.Serves settings w job after) :
    (Pending.ofSubmission request).materialize settings w
      = (.job job, after, request.openings) := by
  cases serves with
  | inline opens =>
      rw [ofSubmission_inline opens.version, openings_of_version opens.version]
      have opened := opens.opened
      rw [Version.mode] at opened
      simp only [Pending.materialize, Pending.withChannel, opened, Version.mode]
  | onChannel opens reads =>
      rw [opens.materialize_eq_readJob]
      simp only [Pending.readJob, reads, List.append_nil]

/-- A request that is dropped has its channel opened first, and then one notice is reported of
it. -/
theorem Drops.materialize_eq (drops : request.Drops settings w notice after) :
    (Pending.ofSubmission request).materialize settings w
      = (.dropped, after, request.openings ++ [.notice notice]) := by
  cases drops with
  | unsupported unknown =>
      rw [Pending.ofSubmission, Version.ofNumber?_eq_none_iff.2 unknown,
        openings_of_unknown unknown]
      rfl
  | notOpened version failed =>
      obtain ⟨use, same⟩ := materialize_eq_withChannel version settings w
      rw [same, openings_of_version version]
      simp only [Pending.withChannel, failed, List.singleton_append]
  | unreadable opens reads | noRequest opens reads | unexpectedVersion opens reads =>
      rw [opens.materialize_eq_readJob]
      simp only [Pending.readJob, reads]

/-- Nothing is reported of a request whose channel panics: the thread goes down with it. -/
theorem Fells.materialize_eq (fells : request.Fells w after) (settings : Settings) :
    (Pending.ofSubmission request).materialize settings w
      = (.panicked, after, request.openings) := by
  obtain ⟨v, version, panicked⟩ := fells
  obtain ⟨use, same⟩ := materialize_eq_withChannel version settings w
  rw [same, openings_of_version version]
  simp only [Pending.withChannel, panicked]

/-! ### Every request meets one of these fates -/

/-- Once its channel is open, a request is served or dropped. -/
theorem Opens.serves_or_drops (opens : request.Opens v w channel after) (settings : Settings) :
    (∃ job after, request.Serves settings w job after)
      ∨ ∃ notice after, request.Drops settings w notice after := by
  cases v with
  | v1 => exact .inl ⟨_, _, .inline opens⟩
  | v2 =>
      obtain ⟨⟨read, source⟩, reads⟩ :
          ∃ result, Pending.readWithin settings.readMillis channel.source = result := ⟨_, rfl⟩
      match read, reads with
      | .ok ⟨.v2, _, _⟩, reads => exact .inl ⟨_, _, .onChannel opens reads⟩
      | .ok ⟨.v1, _, _⟩, reads => exact .inr ⟨_, _, .unexpectedVersion opens reads⟩
      | .error (.flaw _), reads => exact .inr ⟨_, _, .unreadable opens reads⟩
      | .error .silent, reads => exact .inr ⟨_, _, .noRequest opens reads⟩

/-- There is no fourth thing that can become of a request. -/
theorem serves_or_drops_or_fells (settings : Settings) (w : world) (request : Submission) :
    (∃ job after, request.Serves settings w job after)
      ∨ (∃ notice after, request.Drops settings w notice after)
      ∨ ∃ after, request.Fells w after := by
  cases known : Version.ofNumber? request.version with
  | none => exact .inr (.inl ⟨_, _, .unsupported (Version.ofNumber?_eq_none_iff.1 known)⟩)
  | some v =>
      have version := Version.ofNumber?_eq_some_iff.1 known
      obtain ⟨⟨outcome, after⟩, opening⟩ :
          ∃ result, Transport.openChannel w request.channel v.mode = result := ⟨_, rfl⟩
      cases outcome with
      | opened channel =>
          have opens : request.Opens v w channel after := ⟨version, opening⟩
          rcases opens.serves_or_drops settings with serves | drops
          · exact .inl serves
          · exact .inr (.inl drops)
      | failed fault => exact .inr (.inl ⟨_, _, .notOpened version opening⟩)
      | panicked => exact .inr (.inr ⟨_, _, version, opening⟩)

variable {events : List Event}

/-- If a job comes of a request, then for one of the reasons in `Serves`. -/
theorem serves_of_job
    (made : (Pending.ofSubmission request).materialize settings w = (.job job, after, events)) :
    request.Serves settings w job after := by
  rcases serves_or_drops_or_fells settings w request with
    ⟨_, _, serves⟩ | ⟨_, _, drops⟩ | ⟨_, fells⟩
  · cases serves.materialize_eq.symm.trans made
    exact serves
  · cases drops.materialize_eq.symm.trans made
  · cases (fells.materialize_eq settings).symm.trans made

/-- If nothing does, then for one of those in `Drops`. -/
theorem drops_of_dropped
    (dropped : (Pending.ofSubmission request).materialize settings w = (.dropped, after, events)) :
    ∃ notice, request.Drops settings w notice after := by
  rcases serves_or_drops_or_fells settings w request with
    ⟨_, _, serves⟩ | ⟨notice, _, drops⟩ | ⟨_, fells⟩
  · cases serves.materialize_eq.symm.trans dropped
  · cases drops.materialize_eq.symm.trans dropped
    exact ⟨notice, drops⟩
  · cases (fells.materialize_eq settings).symm.trans dropped

/-- If the thread goes down, then since a channel panicked when it was opened. -/
theorem fells_of_panicked
    (panicked :
      (Pending.ofSubmission request).materialize settings w = (.panicked, after, events)) :
    request.Fells w after := by
  rcases serves_or_drops_or_fells settings w request with
    ⟨_, _, serves⟩ | ⟨_, _, drops⟩ | ⟨_, fells⟩
  · cases serves.materialize_eq.symm.trans panicked
  · cases drops.materialize_eq.symm.trans panicked
  · cases (fells.materialize_eq settings).symm.trans panicked
    exact fells

/-- No request that is dropped could have been served. -/
theorem Drops.not_serves {later : world} (drops : request.Drops settings w notice after) :
    ¬ request.Serves settings w job later := by
  intro serves
  have same := drops.materialize_eq.symm.trans serves.materialize_eq
  cases congrArg Prod.fst same

/-- A request is not dropped without an error. -/
theorem Drops.severity_eq (drops : request.Drops settings w notice after) :
    notice.severity = .error := by
  cases drops <;> rfl

end Submission

end AttachService
