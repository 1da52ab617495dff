/-
Module: AttachService.Proofs.Intake.Turns
Purpose: A turn of the consumer takes what is queued up to the first request that can be served.
Trusted boundary: none
Main exports: Scan, Scan.unique, Scan.exists_popped, Intake.Turned, Intake.turned_next,
  Race.next_scans
-/
import AttachService.Proofs.Intake.Materializing
import AttachService.Proofs.Race.Rest
import AttachService.Stream.Exchange

namespace AttachService

variable {world : Type} [Transport world] {settings : Settings} {shut : Bool}
  {w after later : world} {queue left : List Submission} {turn : Turn} {events : List Event}
  {request : Submission} {job : Job} {notice : Notice}

/-- A turn of the consumer over what is queued: requests that cannot be served are dropped,
the oldest first, up to the first one that can be served.  Nothing behind it is touched. -/
inductive Scan (settings : Settings) (shut : Bool) :
    world → List Submission → Turn → (left : List Submission) → List Event → world → Prop where
  | exhausted (w : world) :
      Scan settings shut w [] (if shut then .closed else .waiting) [] [] w
  | served {w after : world} {request : Submission} {job : Job}
      (serves : request.Serves settings w job after) (left : List Submission) :
      Scan settings shut w (request :: left) (.job job) left request.openings after
  | felled {w after : world} {request : Submission} (fells : request.Fells w after)
      (left : List Submission) :
      Scan settings shut w (request :: left) .panicked left request.openings after
  | skipped {w after later : world} {request : Submission} {notice : Notice}
      {queue left : List Submission} {turn : Turn} {events : List Event}
      (unserved : ∀ job later, ¬ request.Serves settings w job later)
      (drops : request.Drops settings w notice after)
      (rest : Scan settings shut after queue turn left events later) :
      Scan settings shut w (request :: queue) turn left
        (request.openings ++ .notice notice :: events) later

/-- How many of the requests that were taken have not been dropped. -/
def Turn.inHand : Turn → Nat
  | .job _ | .panicked => 1
  | .closed | .waiting => 0

namespace Scan

/-- There is no choice in a scan. -/
theorem unique {turn' : Turn} {left' : List Submission} {events' : List Event} {later' : world}
    (one : Scan settings shut w queue turn left events later)
    (two : Scan settings shut w queue turn' left' events' later') :
    turn' = turn ∧ left' = left ∧ events' = events ∧ later' = later := by
  induction one generalizing turn' left' events' later' with
  | exhausted =>
      cases two
      exact ⟨rfl, rfl, rfl, rfl⟩
  | served serves =>
      have fate := serves.materialize_eq
      cases two with
      | served other =>
          cases fate.symm.trans other.materialize_eq
          exact ⟨rfl, rfl, rfl, rfl⟩
      | felled other => cases fate.symm.trans (other.materialize_eq settings)
      | skipped unserved => exact absurd serves (unserved _ _)
  | felled fells =>
      have fate := fells.materialize_eq settings
      cases two with
      | served other => cases fate.symm.trans other.materialize_eq
      | felled other =>
          cases fate.symm.trans (other.materialize_eq settings)
          exact ⟨rfl, rfl, rfl, rfl⟩
      | skipped _ other => cases congrArg Prod.fst (fate.symm.trans other.materialize_eq)
  | skipped unserved drops rest ih =>
      have fate := drops.materialize_eq
      cases two with
      | served other => exact absurd other (unserved _ _)
      | felled other =>
          cases congrArg Prod.fst (fate.symm.trans (other.materialize_eq settings))
      | skipped _ other tail =>
          have same := fate.symm.trans other.materialize_eq
          simp only [Prod.mk.injEq, true_and, List.append_cancel_left_eq, List.cons.injEq,
            and_true, Event.notice.injEq] at same
          obtain ⟨rfl, rfl⟩ := same
          obtain ⟨rfl, rfl, rfl, rfl⟩ := ih tail
          exact ⟨rfl, rfl, rfl, rfl⟩

/-- All that is taken is opened in order, and each request that is dropped is reported. -/
theorem exists_popped (scan : Scan settings shut w queue turn left events later) :
    ∃ popped, queue = popped ++ left
      ∧ events.filterMap Event.opening? = popped.filterMap Submission.opening?
      ∧ popped.length = (events.filterMap Event.notice?).length + turn.inHand := by
  induction scan with
  | exhausted =>
      refine ⟨[], rfl, rfl, ?_⟩
      split <;> rfl
  | @served w after request job serves left =>
      refine ⟨[request], rfl, ?_, ?_⟩
      · rw [← Submission.opening?_openings_append, List.filterMap_nil, List.append_nil]
      · rw [Submission.notice?_openings]
        rfl
  | @felled w after request fells left =>
      refine ⟨[request], rfl, ?_, ?_⟩
      · rw [← Submission.opening?_openings_append, List.filterMap_nil, List.append_nil]
      · rw [Submission.notice?_openings]
        rfl
  | @skipped w after later request notice queue left turn events _ drops rest ih =>
      obtain ⟨popped, rfl, openings, count⟩ := ih
      refine ⟨request :: popped, rfl, ?_, ?_⟩
      · rw [List.filterMap_append, List.filterMap_cons_none rfl, openings,
          Submission.opening?_openings_append]
      · rw [Submission.notice?_openings_append, List.length_cons, List.length_cons, count]
        exact Nat.add_right_comm _ _ _

/-- Whatever is reported is an error. -/
theorem severity_eq (scan : Scan settings shut w queue turn left events later)
    (reported : notice ∈ events.filterMap Event.notice?) : notice.severity = .error := by
  induction scan with
  | exhausted => cases reported
  | served | felled =>
      rw [Submission.notice?_openings] at reported
      cases reported
  | skipped _ drops rest ih =>
      rw [Submission.notice?_openings_append, List.mem_cons] at reported
      rcases reported with rfl | later
      · exact drops.severity_eq
      · exact ih later

end Scan

namespace Intake

variable {intake after : Intake} {lost : List SlotId}

/-! ### One round -/

/-- Without a unit a turn ends at once. -/
theorem next_of_nothing (nothing : intake.pending.acquire
      = if intake.pending.closed then .refused else .blocked) (w : world) :
    intake.next w
      = (if intake.pending.closed then .closed else .waiting, intake, w, []) := by
  rw [next]
  split
  · next refused =>
      rw [refused] at nothing
      split at nothing
      · next closed => rw [if_pos closed]
      · cases nothing
  · next blocked =>
      rw [blocked] at nothing
      split at nothing
      · cases nothing
      · next unclosed => rw [if_neg unclosed]
  · next granted =>
      rw [granted] at nothing
      split at nothing <;> cases nothing

theorem next_of_taken {pending : Semaphore} (unit : intake.pending.acquire = .granted pending)
    (taken : { intake with pending := pending }.takeQueued = some (request, after)) (w : world) :
    intake.next w =
      match (Pending.ofSubmission request).materialize after.settings w with
      | (.job job, w, events) => (.job job, after, w, events)
      | (.panicked, w, events) => (.panicked, after, w, events)
      | (.dropped, w, events) =>
          ((after.next w).1, (after.next w).2.1, (after.next w).2.2.1,
            events ++ (after.next w).2.2.2) := by
  rw [next]
  split
  · next refused => cases unit.symm.trans refused
  · next blocked => cases unit.symm.trans blocked
  · next granted =>
      cases unit.symm.trans granted
      split
      · next none => cases taken.symm.trans none
      · next some =>
          cases taken.symm.trans some
          rfl

/-- What a turn that starts in `w` comes to, at an intake with these slots lost. -/
structure Turned (intake : Intake) (lost : List SlotId) (w : world) (turn : Turn)
    (after : Intake) (later : world) (events : List Event) : Prop where
  scan : Scan intake.settings intake.pending.closed w intake.chains.queued turn
    after.chains.queued events later
  orderly : after.Orderly lost
  keeps : intake.Keeps after
  /-- In a race the consumer gets there by moves of its own. -/
  reached : ∀ {race : Race}, race.intake = intake → race.holder = none → race.owed = 0 →
    ∃ moves, (race.run moves).intake = after ∧ (race.run moves).holder = none
      ∧ (race.run moves).owed = 0

/-- A turn that only takes the oldest request. -/
theorem Turned.of_taken {pending : Semaphore} {queue : List Submission} {later : world}
    (chain : intake.chains.queued = request :: queue)
    (unit : intake.pending.acquire = .granted pending)
    (taken : { intake with pending := pending }.takeQueued = some (request, after))
    (orderly : after.Orderly lost) (keeps : intake.Keeps after)
    (shorter : after.chains.queued = queue)
    (scan : Scan intake.settings intake.pending.closed w (request :: queue) turn queue events
      later) : intake.Turned lost w turn after later events where
  scan := by
    rw [chain, shorter]
    exact scan
  orderly := orderly
  keeps := keeps
  reached {race} same unlocked idle := by
    subst same
    refine ⟨[.acquire, .take, .carryOn, .carryOn, .carryOn], ?_⟩
    have popped := Race.takeNow_of_granted unlocked unit taken
    rw [Race.run_cons, ← Race.takeNow, popped]
    exact ⟨rfl, unlocked, idle⟩

/-- A turn scans what is queued, whatever there is and wherever it starts. -/
theorem turned_next (orderly : intake.Orderly lost) (w : world) :
    intake.Turned lost w (intake.next w).1 (intake.next w).2.1 (intake.next w).2.2.1
      (intake.next w).2.2.2 := by
  -- The induction is on what is queued: each round takes the oldest request.
  generalize chain : intake.chains.queued = queue
  induction queue generalizing intake w with
  | nil =>
      rw [next_of_nothing (orderly.acquire_nil chain)]
      refine ⟨?_, orderly, .refl intake, ?_⟩
      · rw [chain]
        exact .exhausted w
      · intro race same unlocked idle
        exact ⟨[], same, unlocked, idle⟩
  | cons request rest ih =>
      obtain ⟨pending, after, unit, taken, beyond, keeps, shorter, -⟩ :=
        orderly.takeQueued_cons chain
      rw [next_of_taken unit taken, keeps.settings_eq]
      rcases request.serves_or_drops_or_fells intake.settings w with
        ⟨job, later, serves⟩ | ⟨notice, later, drops⟩ | ⟨later, fells⟩
      · rw [serves.materialize_eq]
        exact .of_taken chain unit taken beyond keeps shorter (.served serves rest)
      · rw [drops.materialize_eq]
        obtain ⟨scan, ending, kept, reached⟩ := ih beyond later shorter
        refine ⟨?_, ending, keeps.trans kept, ?_⟩
        · rw [keeps.settings_eq, keeps.closed_eq, shorter] at scan
          simp only [chain, List.append_assoc, List.singleton_append]
          exact .skipped (fun _ _ => drops.not_serves) drops scan
        · rintro race rfl unlocked idle
          have popped := Race.takeNow_of_granted unlocked unit taken
          have onward := @reached { race with intake := after, taken := race.taken ++ [request] }
            rfl unlocked idle
          obtain ⟨moves, arrived⟩ := onward
          refine ⟨[.acquire, .take, .carryOn, .carryOn, .carryOn] ++ moves, ?_⟩
          rw [Race.run_append, Race.run_cons, ← Race.takeNow, popped]
          exact arrived
      · rw [fells.materialize_eq]
        exact .of_taken chain unit taken beyond keeps shorter (.felled fells rest)

/-- A turn ends with the oldest request if that can be served. -/
theorem next_of_serves (orderly : intake.Orderly lost)
    (chain : intake.chains.queued = request :: left)
    (serves : request.Serves intake.settings w job later) :
    ∃ after, intake.next w = (.job job, after, later, request.openings)
      ∧ after.chains.queued = left
      ∧ intake.Turned lost w (.job job) after later request.openings := by
  have turned := turned_next orderly w
  have scan := turned.scan
  rw [chain] at scan
  obtain ⟨turn, rest, events, world⟩ := Scan.unique (.served serves left) scan
  rw [turn, events, world] at turned
  refine ⟨(intake.next w).2.1, ?_, rest, turned⟩
  rw [← turn, ← events, ← world]

end Intake

namespace Race

/-- What a turn of the consumer that starts in `w` comes to while nobody else is at the
intake. -/
structure Turned (race : Race) (w : world) (turn : Turn) (after : Intake) (later : world)
    (events : List Event) : Prop where
  scan : Scan race.intake.settings race.intake.pending.closed w race.intake.chains.queued turn
    after.chains.queued events later
  /-- The semaphore is closed exactly if the intake is, unless a shutdown is half done. -/
  shut : race.closing = 0 → race.intake.pending.closed = race.intake.closed
  /-- All that was taken was opened once, in order.  All of it was dropped with one notice
  each, but for what the turn ends with. -/
  popped : ∃ popped, race.intake.chains.queued = popped ++ after.chains.queued
    ∧ events.filterMap Event.opening? = popped.filterMap Submission.opening?
    ∧ popped.length = (events.filterMap Event.notice?).length + turn.inHand
    ∧ after.freeCount = race.intake.freeCount + popped.length
  severe : ∀ notice ∈ events.filterMap Event.notice?, notice.severity = .error
  orderly : after.Orderly race.lost
  keeps : race.intake.Keeps after
  reached : ∃ moves, (race.run moves).intake = after ∧ (race.run moves).holder = none
    ∧ (race.run moves).owed = 0

/-- At any moment of a race at which nobody is at the intake, a turn of the consumer scans what is
queued, and comes to where moves of the race come to as well. -/
theorem next_scans (settings : Settings) (moves : List Move)
    (unlocked : ((start settings).run moves).holder = none)
    (idle : ((start settings).run moves).owed = 0) (w : world) :
    ((start settings).run moves).Turned w
      (((start settings).run moves).intake.next w).1
      (((start settings).run moves).intake.next w).2.1
      (((start settings).run moves).intake.next w).2.2.1
      (((start settings).run moves).intake.next w).2.2.2 := by
  have shut := closed_eq_run settings moves unlocked
  have orderly := orderly_run settings moves unlocked idle
  generalize (start settings).run moves = race at *
  have turned := Intake.turned_next orderly w
  obtain ⟨popped, queued, openings, count⟩ := turned.scan.exists_popped
  have total := orderly.length_eq
  have beyond := turned.orderly.length_eq
  have shorter := congrArg List.length queued
  rw [List.length_append, orderly.length_queued, turned.orderly.length_queued] at shorter
  exact {
    scan := turned.scan
    shut := shut
    popped := ⟨popped, queued, openings, count, by omega⟩
    severe := fun notice => turned.scan.severity_eq
    orderly := turned.orderly
    keeps := turned.keeps
    reached := turned.reached rfl unlocked idle }

/-- The intake is made ready, and these requests are submitted one after the other. -/
def submitted (requests : List Submission) : List Move :=
  [.markReady, .carryOn, .carryOn] ++ requests.map .arrive
    ++ (List.range requests.length).flatMap fun k => List.replicate 8 (.proceed k)

/-- Four requests.  Only the last one can be served where `oneUsable` is the world. -/
def oneOfFour : List Submission :=
  [⟨1, "help", #v["", "", ""], "/tmp/1"⟩, ⟨7, "help", #v["", "", ""], "/tmp/2"⟩,
    ⟨2, "", #v["", "", ""], "/tmp/3"⟩, ⟨1, "stop", #v["now", "", ""], "/tmp/4"⟩]

/-- Nobody listens on the first channel, and what comes on the third one is no request. -/
def oneUsable : Exchange :=
  ((⟨#[]⟩ : Exchange).listen "/tmp/3" (.ofBytes [51, 0]) {} none).listen "/tmp/4" (.ofBytes [])
    {} none

/-- Nobody is behind the first channel, the second request has a version that nobody knows, and
the third channel carries no request.  The turn ends with the fourth. -/
theorem next_scans_past_three :
    ((start ⟨1000, 10, 10000, "/tmp/", ""⟩).run (submitted oneOfFour)).holder = none
      ∧ ((start ⟨1000, 10, 10000, "/tmp/", ""⟩).run (submitted oneOfFour)).owed = 0
      ∧ ∃ after later events,
        ((start ⟨1000, 10, 10000, "/tmp/", ""⟩).run (submitted oneOfFour)).Turned oneUsable
          (.job ⟨"stop", ["now", "", ""], ⟨1, ⟨[.piece []], 0⟩, {}⟩⟩) after later events := by
  have unlocked : ((start ⟨1000, 10, 10000, "/tmp/", ""⟩).run (submitted oneOfFour)).holder
      = none := Option.isNone_iff_eq_none.1 (by decide +kernel)
  have idle : ((start ⟨1000, 10, 10000, "/tmp/", ""⟩).run (submitted oneOfFour)).owed = 0 := by
    decide +kernel
  have turn : (((start ⟨1000, 10, 10000, "/tmp/", ""⟩).run (submitted oneOfFour)).intake.next
      oneUsable).1 = .job ⟨"stop", ["now", "", ""], ⟨1, ⟨[.piece []], 0⟩, {}⟩⟩ := by
    decide +kernel
  have turned := next_scans ⟨1000, 10, 10000, "/tmp/", ""⟩ (submitted oneOfFour) unlocked idle
    oneUsable
  rw [turn] at turned
  exact ⟨unlocked, idle, _, _, _, turned⟩

end Race

end AttachService
