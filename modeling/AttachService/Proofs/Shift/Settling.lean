/-
Module: AttachService.Proofs.Shift.Settling
Purpose: How each request in the record came to its fate, and what that depends on.
Trusted boundary: none
Main exports: Submission.FindsSame, Shift.Came, Shift.Settled, Shift.explained_run,
  Shift.Settled.alone
-/
import AttachService.Proofs.Intake.Materializing
import AttachService.Proofs.Shift.Record
import Mathlib.Data.List.Induction

namespace AttachService

/-! ### What decides on a request -/

namespace Submission

variable {world other : Type} [Transport world] [Transport other] {settings : Settings}
  {w after later : world} {o : other} {request : Submission} {job : Job} {notice : Notice}

/-- Opening the channel of the request comes to the same in both worlds. -/
def FindsSame (request : Submission) (w : world) (o : other) : Prop :=
  ∀ v : Version, request.version = v.number →
    (Transport.openChannel o request.channel v.mode).1
      = (Transport.openChannel w request.channel v.mode).1

/-- A channel that opens the same gives the same. -/
theorem Opens.of_same {v : Version} {channel : Channel} (opens : request.Opens v w channel after)
    (same : request.FindsSame w o) : ∃ later, request.Opens v o channel later := by
  refine ⟨_, opens.version, Prod.ext ?_ rfl⟩
  rw [same v opens.version, opens.opened]

/-- The same job comes of a request whose channel opens the same. -/
theorem Serves.of_same (serves : request.Serves settings w job after)
    (same : request.FindsSame w o) : ∃ later, request.Serves settings o job later := by
  cases serves with
  | inline opens =>
      obtain ⟨later, opens⟩ := opens.of_same same
      exact ⟨later, .inline opens⟩
  | onChannel opens reads =>
      obtain ⟨later, opens⟩ := opens.of_same same
      exact ⟨later, .onChannel opens reads⟩

/-- A request whose channel opens the same is dropped with the same notice. -/
theorem Drops.of_same (drops : request.Drops settings w notice after)
    (same : request.FindsSame w o) : ∃ later, request.Drops settings o notice later := by
  cases drops with
  | unsupported unknown => exact ⟨o, .unsupported unknown⟩
  | @notOpened v fault _ version failed =>
      have outcome := same v version
      rw [failed] at outcome
      exact ⟨_, .notOpened version (Prod.ext outcome rfl)⟩
  | unreadable opens reads =>
      obtain ⟨later, opens⟩ := opens.of_same same
      exact ⟨_, .unreadable opens reads⟩
  | noRequest opens reads =>
      obtain ⟨later, opens⟩ := opens.of_same same
      exact ⟨_, .noRequest opens reads⟩
  | unexpectedVersion opens reads =>
      obtain ⟨later, opens⟩ := opens.of_same same
      exact ⟨_, .unexpectedVersion opens reads⟩

/-- One world makes one job of a request. -/
theorem Serves.job_eq {job' : Job} (serves : request.Serves settings w job after)
    (again : request.Serves settings w job' later) : job' = job := by
  have same := again.materialize_eq.symm.trans serves.materialize_eq
  exact Materialized.job.inj (congrArg Prod.fst same)

end Submission

namespace Shift

variable {world : Type} [Transport world] {settings : Settings} {first : Shift world}
  {moves : List (ShiftMove world)} {m : ShiftMove world} {n : Nat} {request : Submission}
  {w : world} {fate : Fate}

/-! ### The turn of a request -/

/-- With these moves the thread has come to turn the request into a job, in the world `w`, when
it had seen to `n` requests before. -/
def Came (first : Shift world) (moves : List (ShiftMove world)) (n : Nat) (request : Submission)
    (w : world) : Prop :=
  ∃ before later, moves = before ++ .work :: later
    ∧ (first.run before).post = .holding request
    ∧ (first.run before).record.length = n
    ∧ (first.run before).outside = w

/-- Having come to a request is not undone. -/
theorem Came.concat (came : first.Came moves n request w) (m : ShiftMove world) :
    first.Came (moves ++ [m]) n request w := by
  obtain ⟨before, later, rfl, here⟩ := came
  refine ⟨before, later ++ [m], ?_, here⟩
  rw [List.append_assoc, List.cons_append]

/-- The turn of the request with number `n` is over, or the thread serves it. -/
def Beyond (n : Nat) (shift : Shift world) : Prop :=
  n < shift.record.length
    ∨ shift.record.length = n ∧ ∃ request job, shift.post = .serving request job

/-- With one step the thread is past the request that it holds. -/
theorem beyond_of_holding {shift : Shift world} (here : shift.post = .holding request)
    (number : shift.record.length = n) : Beyond n (shift.move .work) := by
  have turns : shift.move .work = shift.unwrap request := by simp only [move, work, here]
  rw [turns]
  unfold Shift.unwrap
  split
  · exact .inr ⟨number, _, _, rfl⟩
  · exact .inl (by simp [note, number])
  · exact .inl (by simp [note, number])

/-- The thread does not come back to a request that it is past. -/
theorem Beyond.step {shift after : Shift world} (beyond : Beyond n shift)
    (step : shift.Step m after) : Beyond n after := by
  rcases beyond with further | ⟨number, request, job, there⟩
  · left
    cases step with
    | drop | fall | answer | perish | founder =>
        simp only [Shift.answer, note, Shift.step, List.length_append, List.length_singleton]
        omega
    | _ => exact further
  · cases step with
    | elsewhere | drift | approach | retreat | shut | join =>
        exact .inr ⟨number, request, job, there⟩
    | answer | founder => exact .inl (by simp [Shift.answer, note, number])
    | begin here | openUp here | acquire here | sendHome here | reach here | findNothing here
    | take here | giveBack here | part here | partWithNothing here | unwrap here | drop here
    | fall here | leave here | withdraw here | close here | perish here =>
        cases here.symm.trans there

theorem Beyond.run {shift : Shift world} (beyond : Beyond n shift)
    (moves : List (ShiftMove world)) : Beyond n (shift.run moves) := by
  induction moves generalizing shift with
  | nil => exact beyond
  | cons m rest ih =>
      rw [run_cons]
      rcases shift.move_eq_or_step m with same | step
      · rw [same]
        exact ih beyond
      · exact ih (beyond.step step)

/-- No turn comes twice. -/
theorem Came.unique {request' : Submission} {w' : world} (came : first.Came moves n request w)
    (again : first.Came moves n request' w') : request' = request ∧ w' = w := by
  -- Of two such points in a run, the later one would be beyond the turn of the earlier one.
  have apart : ∀ {before middle : List (ShiftMove world)} {request request' : Submission},
      (first.run before).post = .holding request → (first.run before).record.length = n →
        (first.run (before ++ .work :: middle)).post = .holding request' →
          (first.run (before ++ .work :: middle)).record.length ≠ n := by
    intro before middle request request' here number there same
    rw [run_append, run_cons] at there same
    rcases (beyond_of_holding here number).run middle with further | ⟨-, _, _, serving⟩
    · exact Nat.ne_of_gt further same
    · cases there.symm.trans serving
  obtain ⟨before, later, rfl, here, number, rfl⟩ := came
  obtain ⟨before', later', split, here', number', rfl⟩ := again
  rcases List.append_eq_append_iff.1 split with ⟨more, rfl, rest⟩ | ⟨more, rfl, rest⟩
  · cases more with
    | nil =>
        rw [List.append_nil] at here' ⊢
        exact ⟨Post.holding.inj (here'.symm.trans here), rfl⟩
    | cons m middle =>
        cases rest
        exact absurd number' (apart here number here')
  · cases more with
    | nil =>
        rw [List.append_nil] at here ⊢
        exact ⟨Post.holding.inj (here'.symm.trans here), rfl⟩
    | cons m middle =>
        cases rest
        exact absurd number (apart here' number' here)

/-- With one of these moves the thread has given back the channel on which it had answered the
request, when it had seen to `n` requests before. -/
def GaveBack (first : Shift world) (moves : List (ShiftMove world)) (n : Nat)
    (request : Submission) (channel : Channel) : Prop :=
  ∃ before later job, moves = before ++ .work :: later
    ∧ (first.run before).post = .serving request job
    ∧ (first.run before).record.length = n
    ∧ ((first.run before).move .work).outside
      = Transport.giveBack (first.run before).outside channel

theorem GaveBack.concat {channel : Channel} (gave : first.GaveBack moves n request channel)
    (m : ShiftMove world) : first.GaveBack (moves ++ [m]) n request channel := by
  obtain ⟨before, later, job, rfl, here⟩ := gave
  refine ⟨before, later ++ [m], job, ?_, here⟩
  rw [List.append_assoc, List.cons_append]

/-- Why the request has this fate. -/
inductive Settled (settings : Settings) (first : Shift world) (moves : List (ShiftMove world))
    (n : Nat) (request : Submission) (w : world) : Fate → Prop where
  | served {job : Job} {after : world} (came : first.Came moves n request w)
      (serves : request.Serves settings w job after)
      (gave : first.GaveBack moves n request
        (job.complete (first.commands.execute job.name job.args).1).1) :
      Settled settings first moves n request w
        (.served (first.commands.execute job.name job.args).1
          (job.complete (first.commands.execute job.name job.args).1).1)
  | dropped {notice : Notice} {after : world} (came : first.Came moves n request w)
      (drops : request.Drops settings w notice after) :
      Settled settings first moves n request w .dropped
  | fell {after : world} (came : first.Came moves n request w) (fells : request.Fells w after) :
      Settled settings first moves n request w .fatal
  /-- The thread died while it had the request in hand. -/
  | collapsed {fate : Fate} (collapse : .collapse ∈ moves) (ended : fate.survived = false) :
      Settled settings first moves n request w fate

/-- A fate that is settled stays so. -/
theorem Settled.concat (settled : Settled settings first moves n request w fate)
    (m : ShiftMove world) : Settled settings first (moves ++ [m]) n request w fate := by
  cases settled with
  | served came serves gave => exact .served (came.concat m) serves (gave.concat m)
  | dropped came drops => exact .dropped (came.concat m) drops
  | fell came fells => exact .fell (came.concat m) fells
  | collapsed collapse ended => exact .collapsed (List.mem_append_left [m] collapse) ended

/-- Who survived a request has come to it. -/
theorem Settled.came (settled : Settled settings first moves n request w fate)
    (survived : fate.survived = true) : first.Came moves n request w := by
  cases settled with
  | served came _ _ | dropped came _ => exact came
  | fell => cases survived
  | collapsed _ ended => cases ended.symm.trans survived

/-! ### Every request in the record has been settled -/

/-- What is known of the record and of the job at hand. -/
structure Explained (settings : Settings) (first : Shift world) (moves : List (ShiftMove world))
    (shift : Shift world) : Prop where
  noted : ∀ {n : Nat} {request : Submission} {fate : Fate},
    shift.record[n]? = some (request, fate) → ∃ w, Settled settings first moves n request w fate
  serving : ∀ {request : Submission} {job : Job}, shift.post = .serving request job →
    ∃ w after, first.Came moves shift.record.length request w
      ∧ request.Serves settings w job after

namespace Explained

variable {shift after : Shift world}

/-- A move that adds nothing to the record leaves it explained. -/
theorem noted_concat (explained : Explained settings first moves shift)
    (record : after.record = shift.record) {n : Nat} {request : Submission} {fate : Fate}
    (found : after.record[n]? = some (request, fate)) :
    ∃ w, Settled settings first (moves ++ [m]) n request w fate := by
  rw [record] at found
  obtain ⟨w, settled⟩ := explained.noted found
  exact ⟨w, settled.concat m⟩

/-- A step that leaves the record alone, and brings the thread no job. -/
theorem congr (explained : Explained settings first moves shift)
    (record : after.record = shift.record)
    (same : ∀ request job, after.post = .serving request job →
      shift.post = .serving request job) : Explained settings first (moves ++ [m]) after where
  noted := explained.noted_concat record
  serving here := by
    obtain ⟨w, later, came, serves⟩ := explained.serving (same _ _ here)
    rw [record]
    exact ⟨w, later, came.concat m, serves⟩

/-- A request is noted. -/
theorem note {struck : Shift world} {outside : world} {events : List Event} {post : Post}
    (explained : Explained settings first moves shift) (record : struck.record = shift.record)
    (settled : Settled settings first (moves ++ [m]) shift.record.length request w fate)
    (onward : ∀ request job, post ≠ .serving request job) :
    Explained settings first (moves ++ [m]) (struck.note request fate post outside events) where
  noted found := by
    rcases Race.of_getElem?_concat found with before | ⟨rfl, same⟩
    · exact explained.noted_concat record before
    · cases same
      rw [record]
      exact ⟨w, settled⟩
  serving here := absurd here (onward _ _)

/-- A move that adds something comes with the reason for it. -/
theorem move (explained : Explained settings first moves shift) (reached : first.run moves = shift)
    (known : shift.Known settings) (commands : shift.commands = first.commands)
    (step : shift.Step m after) : Explained settings first (moves ++ [m]) after := by
  have same := known.settings_eq
  have comes : ∀ {request : Submission}, m = .work → shift.post = .holding request →
      first.Came (moves ++ [m]) shift.record.length request shift.outside := by
    rintro request rfl here
    exact ⟨moves, [], rfl, by rw [reached, here], by rw [reached], by rw [reached]⟩
  cases step with
  | elsewhere | drift | approach | retreat | shut | join => exact explained.congr rfl fun _ _ => id
  | begin | acquire | sendHome | reach | findNothing | take | giveBack | part | partWithNothing
  | leave | close => exact explained.congr rfl fun _ _ there => by cases there
  | openUp | withdraw =>
      refine explained.congr rfl fun _ _ there => ?_
      simp only [Shift.step] at there
      split at there <;> cases there
  | unwrap here made =>
      rw [same] at made
      refine ⟨explained.noted_concat rfl, fun there => ?_⟩
      cases there
      exact ⟨_, _, comes rfl here, Submission.serves_of_job made⟩
  | drop here dropped =>
      rw [same] at dropped
      obtain ⟨notice, drops⟩ := Submission.drops_of_dropped dropped
      exact explained.note rfl (.dropped (comes rfl here) drops) (by simp)
  | fall here panicked =>
      exact explained.note rfl (.fell (comes rfl here) (Submission.fells_of_panicked panicked))
        (by simp)
  | answer here =>
      obtain ⟨w, later, came, serves⟩ := explained.serving here
      have gave : first.GaveBack (moves ++ [.work]) shift.record.length _ _ :=
        ⟨moves, [], _, rfl, by rw [reached, here], by rw [reached], by
          rw [reached]
          simp only [Shift.move, work, here]
          rfl⟩
      rw [commands] at gave
      simp only [Shift.answer, commands]
      exact explained.note rfl (.served (came.concat _) serves gave) (by simp)
  | perish | founder =>
      exact explained.note rfl
        (.collapsed (w := shift.outside) (List.mem_append_right moves List.mem_cons_self) rfl)
        (by simp)

end Explained

theorem Step.commands_eq {shift after : Shift world} (step : shift.Step m after) :
    after.commands = shift.commands := by
  cases step <;> rfl

/-- Commands are the same from beginning to end. -/
theorem commands_run (first : Shift world) (moves : List (ShiftMove world)) :
    (first.run moves).commands = first.commands := by
  induction moves generalizing first with
  | nil => rfl
  | cons m rest ih =>
      rw [run_cons, ih]
      rcases first.move_eq_or_step m with same | step
      · rw [same]
      · exact step.commands_eq

/-- Every fate in the record has its reason. -/
theorem explained_run (settings : Settings) (outside : world) (commands : CommandTable)
    (moves : List (ShiftMove world)) :
    Explained settings (start settings outside commands) moves
      ((start settings outside commands).run moves) := by
  induction moves using List.reverseRecOn with
  | nil =>
      constructor
      · intro n request fate found
        cases found
      · intro request job here
        cases here
  | append_singleton moves m ih =>
      have known := (known_start settings outside commands).run moves
      rw [run_concat]
      rcases ((start settings outside commands).run moves).move_eq_or_step m with same | step
      · rw [same]
        exact ih.congr rfl fun _ _ => id
      · exact ih.move rfl known (commands_run _ moves) step

/-! ### What others do makes no difference -/

/-- A request that the thread has survived is dealt with the same in any two runs, whatever else
goes on in them, if its channel opens the same, and so does its command. -/
theorem Settled.alone {other : Type} [Transport other] {second : Shift other}
    {moves' : List (ShiftMove other)} {n' : Nat} {o : other} {fate' : Fate}
    (settled : Settled settings first moves n request w fate)
    (again : Settled settings second moves' n' request o fate') (same : request.FindsSame w o)
    (commands : ∀ job after, request.Serves settings w job after →
      (second.commands.execute job.name job.args).1 = (first.commands.execute job.name job.args).1)
    (survived : fate.survived = true) (survived' : fate'.survived = true) : fate' = fate := by
  cases settled with
  | @served job _ came serves =>
      obtain ⟨later, alike⟩ := serves.of_same same
      cases again with
      | served _ serves' =>
          rw [alike.job_eq serves', commands job _ serves]
      | dropped _ drops => exact absurd alike drops.not_serves
      | fell => cases survived'
      | collapsed _ ended => cases ended.symm.trans survived'
  | dropped came drops =>
      obtain ⟨later, alike⟩ := drops.of_same same
      cases again with
      | served _ serves => exact absurd serves alike.not_serves
      | dropped => rfl
      | fell => cases survived'
      | collapsed _ ended => cases ended.symm.trans survived'
  | fell => cases survived
  | collapsed _ ended => cases ended.symm.trans survived

end Shift

end AttachService
