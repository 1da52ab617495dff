/-
Module: AttachService.Proofs.Wire.Prompt
Purpose: A request is read as soon as its bytes are there, whatever pieces they come in, and no
  byte after them is taken; a reply is read up to the end.
Trusted boundary: none
Main exports: Reader, Reader.Decides, Reader.Starves, Reader.Prompt, Reader.Prompt.andThen,
  Reader.Prompt.decides, Reader.Prompt.starves_of_passes, Reader.Alike, Request.prompt_read,
  Reply.delivered_read
-/
import AttachService.Proofs.Stream.Arrivals
import AttachService.Wire.Reply
import AttachService.Wire.Request

namespace AttachService

/-!
A reader takes bytes one after the other until it has its answer.  `Decides` says that certain
bytes are what it needs for that: once they have arrived it answers, and it has taken these bytes
and no others.  `Starves` says that certain bytes are too few.  A reader is `Prompt` if, of
whatever arrives, a front decides, or the whole is too few; there is no third case, in which the
reader would wait for bytes that make no difference.

Whether a reader is prompt is found out part by part: a byte and a block of known length are, and
a prompt reader that goes on as another prompt reader is prompt.
-/

/-- A reader of a request, or of a part of one. -/
abbrev Reader (α : Type) : Type := Source → Except NoRequest α × Source

namespace Reader

variable {α β : Type} {read : Reader α} {more : α → Reader β} {front bytes : List UInt8}
  {outcome : Except Flaw α}

/-- Once these bytes have arrived this is the answer, and they are what was taken, whatever
pieces they come in and whatever comes after them. -/
def Decides (read : Reader α) (front : List UInt8) (outcome : Except Flaw α) : Prop :=
  ∀ s, front <+: s.arriving →
    ∃ t, read s = (outcome.mapError .flaw, t) ∧ s.Passes front t ∧ t.ending = s.ending

/-- What is said of a message that stops too early. -/
inductive Unfinished : Stop → NoRequest → Prop where
  | ended : Unfinished .ended (.flaw .truncated)
  | cut {fault : Fault} (kind : fault.kind = .unexpectedEnd) :
      Unfinished (.failed fault) (.flaw .truncated)
  | failed {fault : Fault} (kind : fault.kind ≠ .unexpectedEnd) :
      Unfinished (.failed fault) (.flaw (.io fault))
  /-- Nothing is ever said. -/
  | silent : Unfinished .silent .silent

/-- If these are all the bytes that arrive, they are all taken, and then it matters only what
stops the reader. -/
def Starves (read : Reader α) (bytes : List UInt8) : Prop :=
  ∀ s, s.arriving = bytes →
    ∃ cause t, Unfinished s.ending cause ∧ read s = (.error cause, t)
      ∧ t.taken = s.taken + bytes.length

/-- Of whatever arrives, a front decides, or the whole is too few. -/
def Prompt (read : Reader α) : Prop :=
  ∀ bytes, (∃ front outcome, front <+: bytes ∧ read.Decides front outcome) ∨ read.Starves bytes

/-! ### Readers from readers -/

/-- Go on with what was read, unless that failed. -/
def andThen (read : Reader α) (more : α → Reader β) : Reader β := fun s =>
  match read s with
  | (.error e, s) => (.error e, s)
  | (.ok a, s) => more a s

/-- Answer without reading. -/
def answer (outcome : Except Flaw α) : Reader α := fun s => (outcome.mapError .flaw, s)

/-- An answer that needs no bytes takes none. -/
theorem decides_answer (outcome : Except Flaw α) : (answer outcome).Decides [] outcome :=
  fun s _ => ⟨s, rfl, .refl s, rfl⟩

theorem prompt_answer (outcome : Except Flaw α) : (answer outcome).Prompt :=
  fun _ => .inl ⟨[], outcome, List.nil_prefix, decides_answer outcome⟩

/-- Where the first reader fails, the second one is not asked. -/
theorem Decides.andThen_error {flaw : Flaw} (first : read.Decides front (.error flaw)) :
    (read.andThen more).Decides front (.error flaw) := by
  intro s arrives
  obtain ⟨t, said, passes, ends⟩ := first s arrives
  refine ⟨t, ?_, passes, ends⟩
  simp only [andThen, said]
  rfl

/-- The bytes that decide the first reader and those that decide the second one decide the two
together. -/
theorem Decides.andThen_ok {a : α} {later : List UInt8} {outcome : Except Flaw β}
    (first : read.Decides front (.ok a)) (second : (more a).Decides later outcome) :
    (read.andThen more).Decides (front ++ later) outcome := by
  intro s arrives
  obtain ⟨rest, whole⟩ := arrives
  rw [List.append_assoc] at whole
  obtain ⟨t, said, passes, ends⟩ := first s ⟨later ++ rest, whole⟩
  have beyond : later <+: t.arriving := ⟨rest, (passes.rest_eq whole.symm).symm⟩
  obtain ⟨u, then_said, further, still⟩ := second t beyond
  refine ⟨u, ?_, passes.trans further, still.trans ends⟩
  simp only [andThen, said]
  exact then_said

/-- Bytes that are too few for the first reader are too few for both. -/
theorem Starves.andThen (few : read.Starves bytes) : (read.andThen more).Starves bytes := by
  intro s arrives
  obtain ⟨cause, t, unfinished, said, taken⟩ := few s arrives
  refine ⟨cause, t, unfinished, ?_, taken⟩
  simp only [Reader.andThen, said]

/-- If the bytes left over by the first reader are too few for the second one, all of them are
too few. -/
theorem Decides.andThen_starves {a : α} {later : List UInt8}
    (first : read.Decides front (.ok a)) (few : (more a).Starves later) :
    (read.andThen more).Starves (front ++ later) := by
  intro s arrives
  obtain ⟨t, said, passes, ends⟩ := first s ⟨later, arrives.symm⟩
  obtain ⟨cause, u, unfinished, then_said, taken⟩ := few t (passes.rest_eq arrives)
  rw [ends] at unfinished
  refine ⟨cause, u, unfinished, ?_, ?_⟩
  · simp only [Reader.andThen, said]
    exact then_said
  · rw [taken, passes.taken, List.length_append, Nat.add_assoc]

/-- Reading on promptly after a prompt reader is prompt. -/
theorem Prompt.andThen (first : read.Prompt) (second : ∀ a, (more a).Prompt) :
    (read.andThen more).Prompt := by
  intro bytes
  rcases first bytes with ⟨front, outcome, ⟨later, rfl⟩, decides⟩ | few
  · cases outcome with
    | error flaw => exact .inl ⟨front, .error flaw, List.prefix_append _ _, decides.andThen_error⟩
    | ok a =>
        rcases second a later with ⟨next, outcome, ahead, goesOn⟩ | few
        · refine .inl ⟨front ++ next, outcome, ?_, decides.andThen_ok goesOn⟩
          exact (List.prefix_append_right_inj front).2 ahead
        · exact .inr (decides.andThen_starves few)
  · exact .inr few.andThen

/-- What is read of a source that begins with the bytes that decide. -/
theorem Decides.outcome_eq {s : Source} {other : Except Flaw α}
    (decides : read.Decides front outcome) (ahead : front <+: s.arriving)
    (read_eq : (read s).1 = other.mapError .flaw) : other = outcome := by
  obtain ⟨t, said, -, -⟩ := decides s ahead
  rw [said] at read_eq
  cases outcome <;> cases other <;> cases read_eq <;> rfl

/-- Just these bytes are taken of it. -/
theorem Decides.length_eq {s : Source} {taken : List UInt8} (decides : read.Decides front outcome)
    (ahead : front <+: s.arriving) (passes : s.Passes taken (read s).2) :
    taken.length = front.length := by
  obtain ⟨t, said, passes', -⟩ := decides s ahead
  have same := passes.taken
  rw [said, passes'.taken] at same
  exact (Nat.add_left_cancel same).symm

/-- Who has an answer does not wait for more. -/
theorem Decides.ne_silent {s : Source} (decides : read.Decides front outcome)
    (ahead : front <+: s.arriving) : (read s).1 ≠ .error .silent := by
  obtain ⟨t, said, -, -⟩ := decides s ahead
  rw [said]
  cases outcome with
  | error flaw => nofun
  | ok a => nofun

/-- Bytes, and after them nothing for ever. -/
def thenSilence (bytes : List UInt8) : Source := { deliveries := [.piece bytes, .silence] }

theorem arriving_thenSilence (bytes : List UInt8) : (thenSilence bytes).arriving = bytes :=
  List.append_nil bytes

/-- No bytes both decide and are too few: a reader that has its answer does not mind silence. -/
theorem Decides.not_starves (decides : read.Decides front outcome) (ahead : front <+: bytes) :
    ¬ read.Starves bytes := by
  intro few
  rw [← arriving_thenSilence bytes] at ahead
  obtain ⟨cause, t, unfinished, silent, -⟩ := few _ (arriving_thenSilence bytes)
  cases unfinished
  exact decides.ne_silent ahead (congrArg Prod.fst silent)

/-- Of what arrives, one front at most decides. -/
theorem Decides.unique {front' : List UInt8} {outcome' : Except Flaw α}
    (one : read.Decides front outcome) (two : read.Decides front' outcome')
    (ahead : front <+: bytes) (ahead' : front' <+: bytes) :
    front = front' ∧ outcome = outcome' := by
  have arrives := arriving_thenSilence bytes
  obtain ⟨t, said, passes, -⟩ := one (thenSilence bytes) (by rwa [arrives])
  have beyond : front' <+: (thenSilence bytes).arriving := by rwa [arrives]
  have length : front.length = front'.length := two.length_eq beyond (by rwa [said])
  refine ⟨?_, two.outcome_eq beyond (congrArg Prod.fst said)⟩
  exact (List.prefix_of_prefix_length_le ahead ahead' (Nat.le_of_eq length)).eq_of_length length

/-- What a prompt reader says of bytes before silence, taking them all, it says whatever comes
after them. -/
theorem Prompt.decides (prompt : read.Prompt) {t : Source}
    (said : read (thenSilence bytes) = (outcome.mapError .flaw, t))
    (passes : (thenSilence bytes).Passes bytes t) : read.Decides bytes outcome := by
  have arrives := arriving_thenSilence bytes
  rcases prompt bytes with ⟨front, other, ahead, decides⟩ | few
  · have beyond : front <+: (thenSilence bytes).arriving := by rwa [arrives]
    have length : bytes.length = front.length := decides.length_eq beyond (by rwa [said])
    obtain rfl := decides.outcome_eq beyond (congrArg Prod.fst said)
    rwa [ahead.eq_of_length length.symm] at decides
  · obtain ⟨cause, u, unfinished, silent, -⟩ := few _ arrives
    cases unfinished
    rw [said] at silent
    cases outcome <;> cases silent

/-- Of a prompt reader bytes are too few exactly if no front of them decides. -/
theorem Prompt.decided_iff (prompt : read.Prompt) (bytes : List UInt8) :
    (∃ front outcome, front <+: bytes ∧ read.Decides front outcome) ↔ ¬ read.Starves bytes := by
  constructor
  · rintro ⟨front, outcome, ahead, decides⟩
    exact decides.not_starves ahead
  · intro enough
    exact (prompt bytes).resolve_right enough

/-- What a reader took to the last byte was too little before the last byte. -/
theorem Prompt.starves_of_passes {s : Source} (prompt : read.Prompt)
    (arrives : s.arriving = bytes) (passes : s.Passes bytes (read s).2) (ahead : front <+: bytes)
    (proper : front ≠ bytes) : read.Starves front := by
  rcases prompt front with ⟨short, outcome, shorter, decides⟩ | few
  · have same : bytes.length = short.length :=
      decides.length_eq (by rw [arrives]; exact shorter.trans ahead) passes
    have whole : bytes.length ≤ front.length := same ▸ shorter.length_le
    exact absurd (ahead.eq_of_length_le whole) proper
  · exact few

/-- One thing is said of each way to stop. -/
theorem Unfinished.unique {stop : Stop} {cause cause' : NoRequest}
    (one : Unfinished stop cause) (two : Unfinished stop cause') : cause = cause' := by
  cases one with
  | ended => cases two; rfl
  | cut kind =>
      cases two with
      | cut => rfl
      | failed other => exact absurd kind other
  | failed kind =>
      cases two with
      | cut other => exact absurd other kind
      | failed => rfl
  | silent => cases two; rfl

/-- Two sources that differ only in their pieces, and in what is behind their stops. -/
structure Alike (s t : Source) : Prop where
  arriving : s.arriving = t.arriving
  ending : s.ending = t.ending

/-- A prompt reader cannot tell them apart. -/
theorem Prompt.eq_of_alike {s t : Source} (prompt : read.Prompt) (alike : Alike s t) :
    (read s).1 = (read t).1
      ∧ ∃ count, (read s).2.taken = s.taken + count ∧ (read t).2.taken = t.taken + count := by
  rcases prompt s.arriving with ⟨front, outcome, ahead, decides⟩ | few
  · obtain ⟨u, said, passes, -⟩ := decides s ahead
    obtain ⟨v, said', passes', -⟩ := decides t (alike.arriving ▸ ahead)
    rw [said, said']
    exact ⟨rfl, front.length, passes.taken, passes'.taken⟩
  · obtain ⟨cause, u, unfinished, said, taken⟩ := few s rfl
    obtain ⟨cause', v, unfinished', said', taken'⟩ := few t alike.arriving.symm
    rw [alike.ending] at unfinished
    rw [said, said', unfinished.unique unfinished']
    exact ⟨rfl, s.arriving.length, taken, taken'⟩

/-! ### A byte, and a block of known length -/

theorem unfinished_ofStop (stop : Stop) : Unfinished stop (Request.ofStop stop) := by
  cases stop with
  | ended => exact .ended
  | failed fault =>
      rw [Request.ofStop]
      by_cases kind : fault.kind = .unexpectedEnd
      · rw [if_pos kind]
        exact .cut kind
      · rw [if_neg kind]
        exact .failed kind
  | silent => exact .silent

/-- A reader of bytes, as a part of a reader of requests. -/
def ofBytes (take : Source → Except Stop α × Source) : Reader α := fun s =>
  match take s with
  | (.error stop, s) => (.error (Request.ofStop stop), s)
  | (.ok a, s) => (.ok a, s)

/-- A byte is taken as soon as it is there. -/
theorem decides_next (b : UInt8) : (ofBytes Source.next).Decides [b] (.ok b) := by
  rintro s ⟨rest, whole⟩
  obtain ⟨t, first, passes⟩ := Source.next_of_arriving whole.symm
  refine ⟨t, ?_, passes, Source.ending_of_next first⟩
  simp only [ofBytes, first]
  rfl

theorem prompt_next : (ofBytes Source.next).Prompt := by
  intro bytes
  cases bytes with
  | nil =>
      apply Or.inr
      intro s arrives
      obtain ⟨t, stopped, taken⟩ := Source.next_of_arriving_nil arrives
      refine ⟨_, t, unfinished_ofStop s.ending, ?_, taken⟩
      simp only [ofBytes, stopped]
  | cons b rest => exact .inl ⟨[b], .ok b, ⟨rest, rfl⟩, decides_next b⟩

/-- A block is taken as soon as its last byte is there. -/
theorem decides_exactly (block : List UInt8) :
    (ofBytes (Source.exactly block.length)).Decides block (.ok block) := by
  rintro s ⟨rest, whole⟩
  obtain ⟨t, got, passes⟩ := Source.exactly_of_arriving whole.symm
  refine ⟨t, ?_, passes, Source.ending_of_exactly got⟩
  simp only [ofBytes, got]
  rfl

theorem prompt_exactly (count : Nat) : (ofBytes (Source.exactly count)).Prompt := by
  intro bytes
  by_cases few : bytes.length < count
  · apply Or.inr
    intro s arrives
    rw [← arrives] at few ⊢
    obtain ⟨t, stopped, taken⟩ := Source.exactly_of_few few
    refine ⟨_, t, unfinished_ofStop s.ending, ?_, taken⟩
    simp only [ofBytes, stopped]
  · refine .inl ⟨bytes.take count, .ok (bytes.take count), List.take_prefix count bytes, ?_⟩
    have decides := decides_exactly (bytes.take count)
    rwa [List.length_take_of_le (Nat.le_of_not_lt few)] at decides

end Reader

/-! ### The parts of a request -/

namespace Request

open Reader

/-- What is done with a byte of a field, which may be the NUL that ends it. -/
def goOn (later : Reader (List UInt8)) (b : UInt8) : Reader (List UInt8) :=
  if b = 0 then answer (.ok []) else later.andThen fun bytes => answer (.ok (b :: bytes))

theorem prompt_goOn {later : Reader (List UInt8)} (prompt : later.Prompt) (b : UInt8) :
    (goOn later b).Prompt := by
  unfold goOn
  split
  · exact prompt_answer _
  · exact prompt.andThen fun bytes => prompt_answer _

theorem takeField_zero (bound : Nat) : takeField bound 0 =
    (ofBytes Source.next).andThen (goOn (answer (.error (.tooLong bound)))) := by
  funext s
  unfold takeField andThen ofBytes goOn
  rcases s.next with ⟨stop | b, t⟩
  · rfl
  · by_cases nul : b = 0
    · simp only [if_pos nul]
      rfl
    · simp only [if_neg nul]
      rfl

theorem takeField_succ (bound room : Nat) : takeField bound (room + 1) =
    (ofBytes Source.next).andThen (goOn (takeField bound room)) := by
  funext s
  rw [takeField]
  unfold andThen ofBytes goOn
  rcases s.next with ⟨stop | b, t⟩
  · rfl
  · by_cases nul : b = 0
    · simp only [if_pos nul]
      rfl
    · simp only [if_neg nul]
      rcases more : takeField bound room t with ⟨e | bytes, u⟩
      · simp only [andThen, more]
      · simp only [andThen, more]
        rfl

/-- A field is not waited for beyond its NUL, or beyond its bound. -/
theorem prompt_takeField (bound room : Nat) : Reader.Prompt (takeField bound room) := by
  induction room with
  | zero =>
      rw [takeField_zero]
      exact prompt_next.andThen (prompt_goOn (prompt_answer _))
  | succ room ih =>
      rw [takeField_succ]
      exact prompt_next.andThen (prompt_goOn ih)

theorem readField_eq (bound : Nat) : readField bound =
    andThen (takeField bound bound) fun bytes =>
      match Utf8.decode bytes with
      | some text => answer (.ok text)
      | none => answer (.error .invalidUtf8) := by
  funext s
  unfold readField andThen
  rcases takeField bound bound s with ⟨e | bytes, t⟩
  · rfl
  · dsimp only
    cases Utf8.decode bytes with
    | none => rfl
    | some text => rfl

/-- To decode it takes no more bytes. -/
theorem prompt_readField (bound : Nat) : Reader.Prompt (readField bound) := by
  rw [readField_eq]
  apply (prompt_takeField bound bound).andThen
  intro bytes
  cases Utf8.decode bytes with
  | none => exact prompt_answer _
  | some text => exact prompt_answer _

theorem readFields_succ (bound count : Nat) : readFields bound (count + 1) =
    andThen (readField bound) fun text =>
      andThen (readFields bound count) fun texts => answer (.ok (text :: texts)) := by
  funext s
  rw [readFields]
  unfold andThen
  rcases readField bound s with ⟨e | text, t⟩
  · rfl
  · dsimp only
    rcases readFields bound count t with ⟨e | texts, u⟩
    · rfl
    · rfl

/-- Several fields are not waited for beyond the last one. -/
theorem prompt_readFields (bound count : Nat) : Reader.Prompt (readFields bound count) := by
  induction count with
  | zero => exact prompt_answer (.ok [])
  | succ count ih =>
      rw [readFields_succ]
      apply (prompt_readField bound).andThen
      intro text
      apply ih.andThen
      intro texts
      exact prompt_answer _

theorem readInline_eq : readInline =
    andThen (readField Limits.nameBytes) fun name =>
      andThen (readFields Limits.argumentBytes Limits.arguments) fun args =>
        answer (.ok ⟨.v1, name, args⟩) := by
  funext s
  unfold readInline andThen
  rcases readField Limits.nameBytes s with ⟨e | name, t⟩
  · rfl
  · dsimp only
    rcases readFields Limits.argumentBytes Limits.arguments t with ⟨e | args, u⟩
    · rfl
    · rfl

theorem prompt_readInline : Reader.Prompt readInline := by
  rw [readInline_eq]
  apply (prompt_readField _).andThen
  intro name
  apply (prompt_readFields _ _).andThen
  intro args
  exact prompt_answer _

/-- What is read of a body, once its length is known. -/
def readBody (length : Nat) : Reader Request :=
  (ofBytes (Source.exactly length)).andThen fun body =>
    match splitBody body with
    | .ok (name, args) => answer (.ok ⟨.v2, name, args⟩)
    | .error flaw => answer (.error flaw)

/-- A body is not waited for beyond its size. -/
theorem prompt_readBody (length : Nat) : (readBody length).Prompt := by
  apply (prompt_exactly length).andThen
  intro body
  cases splitBody body with
  | ok fields => exact prompt_answer _
  | error flaw => exact prompt_answer _

theorem readSized_eq : readSized = andThen (readField Limits.headerBytes) fun size =>
    match bodyLength? size with
    | some length => readBody length
    | none => answer (.error (.invalidSize size)) := by
  funext s
  unfold readSized readBody andThen ofBytes
  rcases readField Limits.headerBytes s with ⟨e | size, t⟩
  · rfl
  · dsimp only
    cases bodyLength? size with
    | none => rfl
    | some length =>
        dsimp only
        rcases t.exactly length with ⟨stop | body, u⟩
        · rfl
        · dsimp only
          rcases splitBody body with flaw | ⟨name, args⟩
          · rfl
          · rfl

theorem prompt_readSized : Reader.Prompt readSized := by
  rw [readSized_eq]
  apply (prompt_readField _).andThen
  intro size
  cases bodyLength? size with
  | none => exact prompt_answer _
  | some length => exact prompt_readBody length

theorem read_eq : read = andThen (readField Limits.headerBytes) fun version =>
    if version = "1" then readInline
    else if version = "2" then readSized
    else answer (.error (.unsupportedVersion version)) := by
  funext s
  unfold read andThen
  rcases readField Limits.headerBytes s with ⟨e | version, t⟩
  · rfl
  · by_cases first : version = "1"
    · simp only [if_pos first]
    · by_cases second : version = "2"
      · simp only [if_neg first, if_pos second]
      · simp only [if_neg first, if_neg second, answer]
        rfl

/-- A request is not waited for beyond its last byte, or the one at which it goes wrong. -/
theorem prompt_read : Reader.Prompt read := by
  rw [read_eq]
  apply (prompt_readField _).andThen
  intro version
  split
  · exact prompt_readInline
  · split
    · exact prompt_readSized
    · exact prompt_answer _

end Request

/-! ### Replies -/

namespace Reply

/-- What is read of a reply: all of it if it comes to its end, and else what stops it, whatever
has come before. -/
inductive Delivered (s : Source) : Except NoReply Reply → Prop where
  | ended (ends : s.ending = .ended) : Delivered s ((parse s.arriving).mapError .flaw)
  | failed {fault : Fault} (ends : s.ending = .failed fault) :
      Delivered s (.error (.flaw (.io fault)))
  | silent (ends : s.ending = .silent) : Delivered s (.error .silent)

/-- A reply is read when the stream has ended, and no sooner. -/
theorem delivered_read (s : Source) : Delivered s (read s).1 := by
  unfold read
  cases ends : s.ending with
  | ended =>
      obtain ⟨t, all⟩ := Source.untilEnd_of_ended ends
      have delivered := Delivered.ended ends
      rw [all]
      dsimp only
      cases parsed : parse s.arriving with
      | ok reply =>
          rw [parsed] at delivered
          exact delivered
      | error flaw =>
          rw [parsed] at delivered
          exact delivered
  | failed fault =>
      obtain ⟨t, stopped⟩ := Source.untilEnd_of_not_ended (s := s) (by rw [ends]; nofun)
      rw [stopped, ends]
      exact .failed ends
  | silent =>
      obtain ⟨t, stopped⟩ := Source.untilEnd_of_not_ended (s := s) (by rw [ends]; nofun)
      rw [stopped, ends]
      exact .silent ends

end Reply

end AttachService
