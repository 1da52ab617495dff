/-
Module: AttachService.Proofs.Shift.Attended
Purpose: As long as nothing takes the thread down, every accepted request is served or dropped,
  once and in order, whatever becomes of the other ones.
Trusted boundary: none
Main exports: Shift.Sound, Shift.Attends, Shift.Attended, Shift.attends_all_accepted
-/
import AttachService.Proofs.Commands.Answering
import AttachService.Proofs.Commands.Transparent
import AttachService.Proofs.Shift.Returning
import AttachService.Proofs.Shift.Settling

namespace AttachService

/-- The request that the thread is about to turn into a job. -/
def Post.due? : Post → Option Submission
  | .holding request => some request
  | _ => none

namespace Shift

variable {world : Type} [Transport world] {settings : Settings} {shift first : Shift world}
  {moves : List (ShiftMove world)} {m : ShiftMove world} {n : Nat} {request : Submission}
  {w : world} {fate : Fate}

/-! ### Channels that do not panic -/

/-- With this move nothing takes the thread down, also not the opening of a channel. -/
def Spares (shift : Shift world) (m : ShiftMove world) : Prop :=
  m ≠ .collapse
    ∧ (m = .work → ∀ request ∈ shift.post.due?, ∀ place ∈ request.opening?,
      (Transport.openChannel shift.outside place.1 place.2).1 ≠ .panicked)

/-- With none of these moves anything does. -/
def Sound : Shift world → List (ShiftMove world) → Prop
  | _, [] => True
  | shift, m :: rest => shift.Spares m ∧ (shift.move m).Sound rest

instance decidableSpares [DecidableEq world] (shift : Shift world) (m : ShiftMove world) :
    Decidable (shift.Spares m) :=
  instDecidableAnd

instance decidableSound [DecidableEq world] :
    (shift : Shift world) → (moves : List (ShiftMove world)) → Decidable (shift.Sound moves)
  | _, [] => .isTrue trivial
  | shift, m :: rest =>
      have := decidableSound (shift.move m) rest
      inferInstanceAs (Decidable (shift.Spares m ∧ (shift.move m).Sound rest))

/-- Each move of a sound run spares the thread. -/
theorem Sound.spares {before later : List (ShiftMove world)}
    (sound : first.Sound (before ++ m :: later)) : (first.run before).Spares m := by
  induction before generalizing first with
  | nil => exact sound.1
  | cons m rest ih => exact ih sound.2

/-- No channel takes the thread down in a sound run. -/
theorem Sound.not_fells {after : world} (sound : first.Sound moves)
    (came : first.Came moves n request w) : ¬ request.Fells w after := by
  rintro ⟨v, version, panicked⟩
  obtain ⟨before, later, rfl, here, -, rfl⟩ := came
  have place : (request.channel, v.mode) ∈ request.opening? := by
    simp [Submission.opening?, version]
  have due : request ∈ (first.run before).post.due? := by rw [here]; rfl
  have opens := sound.spares.2 rfl request due _ place
  rw [panicked] at opens
  exact opens rfl

/-- The thread survives every request of a sound run. -/
theorem Sound.survived (sound : first.Sound moves)
    (settled : Settled settings first moves n request w fate) : fate.survived = true := by
  cases settled with
  | served | dropped => rfl
  | fell came fells => exact absurd fells (sound.not_fells came)
  | collapsed collapse =>
      obtain ⟨before, later, rfl⟩ := List.append_of_mem collapse
      exact absurd rfl sound.spares.1

/-- Every request in the record has had its turn, and has its fate from that. -/
theorem Sound.exists_came (sound : first.Sound moves)
    (explained : Explained settings first moves (first.run moves))
    (found : (first.run moves).record[n]? = some (request, fate)) :
    ∃ w, first.Came moves n request w ∧ Settled settings first moves n request w fate := by
  obtain ⟨w, settled⟩ := explained.noted found
  exact ⟨w, settled.came (sound.survived settled), settled⟩

/-- The thread comes to a request once, so its fate is settled where it came to it. -/
theorem Sound.settled (sound : first.Sound moves)
    (explained : Explained settings first moves (first.run moves))
    (found : (first.run moves).record[n]? = some (request, fate))
    (came : first.Came moves n request w) : Settled settings first moves n request w fate := by
  obtain ⟨w', came', settled⟩ := sound.exists_came explained found
  obtain ⟨-, rfl⟩ := came.unique came'
  exact settled

/-! ### What becomes of every request -/

/-- A request that can become a job where its turn comes is served: what its command comes to is
sent on its channel, and the channel is given back.  Any other one is dropped. -/
inductive Attends (settings : Settings) (first : Shift world) (moves : List (ShiftMove world))
    (n : Nat) (request : Submission) (w : world) : Fate → Prop where
  | served {job : Job} {after : world} {channel : Channel}
      (serves : request.Serves settings w job after)
      (answered : job.Answered (first.commands.execute job.name job.args).1 channel)
      (gave : first.GaveBack moves n request channel) :
      Attends settings first moves n request w
        (.served (first.commands.execute job.name job.args).1 channel)
  | dropped (unusable : ∀ job after, ¬ request.Serves settings w job after) :
      Attends settings first moves n request w .dropped

/-- A request that could be served was. -/
theorem Sound.attends (sound : first.Sound moves)
    (settled : Settled settings first moves n request w fate) :
    Attends settings first moves n request w fate := by
  have survived := sound.survived settled
  cases settled with
  | served _ serves gave => exact .served serves (Job.answered_complete _ _) gave
  | dropped _ drops => exact .dropped fun job after serves => drops.not_serves serves
  | fell => cases survived
  | collapsed _ ended => cases ended.symm.trans survived

/-- What is known of a shift that was run from `first` with these moves. -/
structure Attended (settings : Settings) (first : Shift world) (moves : List (ShiftMove world)) :
    Prop where
  /-- Whatever was accepted has been seen to, is in the hands of the thread or is queued, in the
  order in which it was accepted. -/
  order : (first.run moves).race.accepted.map (·.2)
    = (first.run moves).record.map (·.1) ++ (first.run moves).post.inHand
      ++ (first.run moves).race.intake.chains.queued
  came : ∀ {n : Nat} {request : Submission} {fate : Fate},
    (first.run moves).record[n]? = some (request, fate) → ∃ w, first.Came moves n request w
  attends : ∀ {n : Nat} {request : Submission} {fate : Fate} {w : world},
    (first.run moves).record[n]? = some (request, fate) → first.Came moves n request w →
      Attends settings first moves n request w fate
  /-- A request meets the same fate in any other run in which its channel opens the same and its
  command comes to the same, whatever other requests, clients and commands there are. -/
  alone : ∀ {other : Type} [Transport other] {outside : other} {commands : CommandTable}
    {moves' : List (ShiftMove other)} {n n' : Nat} {request : Submission} {fate fate' : Fate}
    {w : world} {o : other}, (start settings outside commands).Sound moves' →
      (first.run moves).record[n]? = some (request, fate) → first.Came moves n request w →
        ((start settings outside commands).run moves').record[n']? = some (request, fate') →
          (start settings outside commands).Came moves' n' request o → request.FindsSame w o →
            (∀ job after, request.Serves settings w job after →
              (commands.execute job.name job.args).1
                = (first.commands.execute job.name job.args).1) →
              fate' = fate
  /-- Whatever has come between, the keeper comes back. -/
  finishes : (first.run moves).Finishes
  stopped : ∀ {dead : Bool}, (first.run moves).keeper = .done dead →
    (first.run moves).Stopped dead

/-- If nothing takes the thread down, whatever was accepted is served or dropped in its turn, one
request whatever becomes of the others, and after a stop nothing is left. -/
theorem attends_all_accepted (settings : Settings) (outside : world) (commands : CommandTable)
    {moves : List (ShiftMove world)} (sound : (start settings outside commands).Sound moves) :
    Attended settings (start settings outside commands) moves := by
  have known := (known_start settings outside commands).run moves
  have recorded := recorded_run settings outside commands moves
  have departing := departing_run settings outside commands moves
  have explained := explained_run settings outside commands moves
  refine ⟨recorded.accepted_eq known, fun found => ?_, fun found came => ?_, ?_,
    known.finishes departing, ?_⟩
  · obtain ⟨w, came, -⟩ := sound.exists_came explained found
    exact ⟨w, came⟩
  · exact sound.attends (sound.settled explained found came)
  · intro other _ outside' commands' moves' n n' request fate fate' w o sound' found came found'
      came' same alike
    have settled := sound.settled explained found came
    have settled' := sound'.settled (explained_run settings outside' commands' moves') found' came'
    exact settled.alone settled' same alike (sound.survived settled) (sound'.survived settled')
  · intro dead done
    refine known.stopped recorded departing (fun fate member => ?_) done
    obtain ⟨⟨request, fate'⟩, entry, same⟩ := List.mem_map.1 member
    obtain ⟨n, found⟩ := List.mem_iff_getElem?.1 entry
    obtain rfl : fate' = fate := same
    obtain ⟨w, -, settled⟩ := sound.exists_came explained found
    exact sound.survived settled

/-! A handler that panics on a channel that breaks, a client that says nothing, and a third one,
all of them there before the thread is; the keeper stops it while it serves the first request. -/

/-- One command that panics, and one that says its arguments. -/
def crewed : CommandTable :=
  (CommandTable.saying).register "boom" fun _ => ⟨"half", none⟩

/-- The first channel takes two bytes and cannot be closed.  On the second one nothing comes. -/
def threeClients : Exchange :=
  (((⟨#[]⟩ : Exchange).listen "/tmp/1" (.ofBytes [])
      { room := some 2, closeFault := some .writeZero } none).listen "/tmp/2" ⟨[.pause], 0⟩ {}
    none).listen "/tmp/3" (.ofBytes []) {} none

/-- The requests of the three. -/
def threeRequests : List Submission :=
  [⟨1, "boom", .replicate _ "", "/tmp/1"⟩, ⟨2, "", .replicate _ "", "/tmp/2"⟩,
    ⟨1, "say", .replicate _ "hi", "/tmp/3"⟩]

/-- They are all accepted, and the keeper stops the thread while it serves the first one. -/
def busyDay : List (ShiftMove Exchange) :=
  threeRequests.map (.others <| .arrive ·) ++ List.replicate 3 .work
    ++ (List.range 3).flatMap (fun k => List.replicate 8 (.others (.proceed k)))
    ++ List.replicate 6 .work ++ List.replicate 5 .stop ++ List.replicate 20 .work ++ [.stop]

/-- The shift before that day. -/
def busyMorning : Shift Exchange := start ⟨1000, 10, 10000, "/tmp/", ""⟩ threeClients crewed

/-- The first reply is cut off, the second request is dropped, and the third is served. -/
theorem attends_all_accepted_busy_day :
    busyMorning.Sound busyDay
      ∧ (busyMorning.run busyDay).keeper = .done false
      ∧ (busyMorning.run busyDay).fates
        = [.served ⟨-2, "Operation boom failed"⟩
            ⟨0, .ofBytes [], {
              room := some 0, closeFault := some .writeZero, reversed := [50, 45], closes := 1 }⟩,
          .dropped,
          .served ⟨-7, "hi\nhi\nhi\x00"⟩
            ⟨2, .ofBytes [], {
              reversed := [0, 105, 104, 10, 105, 104, 10, 105, 104, 10, 55, 45]
              flushes := 1
              closes := 1 }⟩]
      ∧ (busyMorning.run busyDay).Stopped false
      ∧ Attended ⟨1000, 10, 10000, "/tmp/", ""⟩ busyMorning busyDay := by
  have sound : busyMorning.Sound busyDay := by decide +kernel
  have done : (busyMorning.run busyDay).keeper = .done false := by decide +kernel
  have attended := attends_all_accepted _ _ _ sound
  exact ⟨sound, done, by decide +kernel, attended.stopped done, attended⟩

end Shift

end AttachService
