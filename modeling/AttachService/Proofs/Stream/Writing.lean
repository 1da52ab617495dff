/-
Module: AttachService.Proofs.Stream.Writing
Purpose: Of a message that is written, the longest front goes through that the sink accepts,
  whatever the portions.
Trusted boundary: none
Main exports: Sink.Accepts, Sink.Fills, Sink.Fills.append, Sink.writeAll_fills,
  Sink.marks_flush, Sink.marks_close, Sink.mishap?, Sink.sent, Sink.Reliable,
  Sink.Reliable.writeAll
-/
import AttachService.Stream.Sink

namespace AttachService.Sink

/-!
How many bytes a sink takes in all depends on its room, and on whether it takes any at all.  The
size of its portions decides only in how many offers they are taken.  `Fills` says so without
any offers, and `writeAll_fills` is the one induction over them.
-/

variable {s t : Sink} {bytes first second front : List UInt8}

/-! ### Taking bytes -/

@[simp] theorem written_accept (s : Sink) (bytes : List UInt8) :
    (s.accept bytes).written = s.written ++ bytes := by
  simp [accept, written]

@[simp] theorem accept_nil (s : Sink) : s.accept [] = s := by
  cases s with
  | mk room => cases room <;> rfl

/-- Bytes that are taken in two portions are taken as in one. -/
theorem accept_accept (s : Sink) (first second : List UInt8) :
    (s.accept first).accept second = s.accept (first ++ second) := by
  have room : ∀ n : Nat, n - first.length - second.length = n - (first.length + second.length) :=
    fun n => Nat.sub_sub n first.length second.length
  simp [accept, Function.comp_def, room]

/-! ### What a sink accepts -/

/-- There is room for all of these bytes, and the sink takes bytes at all. -/
structure Accepts (s : Sink) (bytes : List UInt8) : Prop where
  room : ∀ room, s.room = some room → bytes.length ≤ room
  moving : s.portion = some 0 → bytes = []

/-- Any sink takes nothing. -/
theorem accepts_nil (s : Sink) : s.Accepts [] := ⟨fun _ _ => Nat.zero_le _, fun _ => rfl⟩

/-- What comes later is accepted by the sink as it is then. -/
theorem accepts_append_iff :
    s.Accepts (first ++ second) ↔ s.Accepts first ∧ (s.accept first).Accepts second := by
  constructor
  · rintro ⟨room, moving⟩
    refine ⟨⟨fun n limit => ?_, fun stuck => ?_⟩, ⟨fun n limit => ?_, fun stuck => ?_⟩⟩
    · have enough := room n limit
      rw [List.length_append] at enough
      omega
    · exact (List.append_eq_nil_iff.1 (moving stuck)).1
    · obtain ⟨all, before, rfl⟩ := Option.map_eq_some_iff.1 limit
      have enough := room all before
      rw [List.length_append] at enough
      omega
    · exact (List.append_eq_nil_iff.1 (moving stuck)).2
  · rintro ⟨one, two⟩
    constructor
    · intro n limit
      have left := two.room (n - first.length) (by simp [accept, limit])
      have enough := one.room n limit
      rw [List.length_append]
      omega
    · intro stuck
      rw [one.moving stuck, two.moving stuck, List.append_nil]

/-- Whoever accepts bytes accepts a front of them. -/
theorem Accepts.of_prefix (accepts : s.Accepts bytes) (ahead : front <+: bytes) :
    s.Accepts front := by
  obtain ⟨rest, rfl⟩ := ahead
  exact (accepts_append_iff.1 accepts).1

/-- Of these bytes the front is the longest that the sink accepts. -/
structure Fills (s : Sink) (bytes front : List UInt8) : Prop where
  ahead : front <+: bytes
  accepted : s.Accepts front
  longest : ∀ other, other <+: bytes → s.Accepts other → other <+: front

/-- All goes through if all is accepted. -/
theorem Fills.eq_iff (fills : s.Fills bytes front) : front = bytes ↔ s.Accepts bytes := by
  constructor
  · rintro rfl
    exact fills.accepted
  · intro accepts
    exact List.IsPrefix.eq_of_length_le fills.ahead
      (fills.longest bytes List.prefix_rfl accepts).length_le

/-- Nothing behind the place where a sink got stuck goes through. -/
theorem Fills.of_short (fills : s.Fills first front) (short : front ≠ first) :
    s.Fills (first ++ second) front where
  ahead := fills.ahead.trans (List.prefix_append first second)
  accepted := fills.accepted
  longest other among accepts := by
    rcases List.prefix_or_prefix_of_prefix among (List.prefix_append first second) with
      before | beyond
    · exact fills.longest other before accepts
    · exact absurd (fills.eq_iff.2 (accepts.of_prefix beyond)) short

/-- Behind what went through, as much goes through as the sink accepts then. -/
theorem Fills.append (accepts : s.Accepts first) (fills : (s.accept first).Fills second front) :
    s.Fills (first ++ second) (first ++ front) where
  ahead := (List.prefix_append_right_inj first).2 fills.ahead
  accepted := accepts_append_iff.2 ⟨accepts, fills.accepted⟩
  longest other among accepted := by
    rcases List.prefix_or_prefix_of_prefix among (List.prefix_append first second) with
      before | ⟨later, rfl⟩
    · exact before.trans (List.prefix_append first front)
    · have behind := (accepts_append_iff.1 accepted).2
      rw [List.prefix_append_right_inj] at among ⊢
      exact fills.longest later among behind

/-! ### Writing -/

/-- What is taken at once is a front of the offer that is accepted. -/
theorem share_prefix (s : Sink) (bytes : List UInt8) : s.share bytes <+: bytes := by
  unfold share
  cases s.portion with
  | none =>
      cases s.room with
      | none => exact List.prefix_refl bytes
      | some room => exact List.take_prefix room bytes
  | some most =>
      cases s.room with
      | none => exact List.take_prefix most bytes
      | some room => exact (List.take_prefix room _).trans (List.take_prefix most bytes)

/-- What a sink takes in one go it accepts. -/
theorem accepts_share (s : Sink) (bytes : List UInt8) : s.Accepts (s.share bytes) where
  room n limit := by
    rw [share, limit]
    exact List.length_take_le n _
  moving stuck := by
    simp only [share, stuck, List.take_zero]
    cases s.room <;> simp

/-- A sink that takes nothing of an offer accepts nothing of it. -/
theorem eq_nil_of_share_eq_nil (nothing : s.share bytes = []) (ahead : front <+: bytes)
    (accepts : s.Accepts front) : front = [] := by
  cases bytes with
  | nil => exact List.prefix_nil.1 ahead
  | cons b rest =>
      obtain ⟨room, moving⟩ := accepts
      unfold share at nothing
      cases portion : s.portion with
      | none =>
          cases limit : s.room with
          | none => simp [portion, limit] at nothing
          | some most =>
              have full : most = 0 := by simpa [portion, limit] using nothing
              exact List.eq_nil_of_length_eq_zero (Nat.le_zero.1 (full ▸ room most limit))
      | some most =>
          by_cases stuck : most = 0
          · exact moving (by rw [portion, stuck])
          · cases limit : s.room with
            | none => simp [portion, limit, stuck] at nothing
            | some left =>
                have full : left = 0 := by simpa [portion, limit, stuck] using nothing
                exact List.eq_nil_of_length_eq_zero (Nat.le_zero.1 (full ▸ room left limit))

/-- Offer by offer, the longest front that is accepted goes through.  Each offer but the last one
is followed by one that offers less. -/
theorem offer_fills {rounds : Nat} (enough : bytes.length ≤ rounds) :
    ∃ front, s.Fills bytes front ∧ offer rounds bytes s
      = (if front = bytes then .ok () else .error (s.accept front).obstacle, s.accept front) := by
  induction rounds generalizing bytes s with
  | zero =>
      obtain rfl := List.eq_nil_of_length_eq_zero (Nat.le_zero.1 enough)
      exact ⟨[], ⟨List.prefix_rfl, s.accepts_nil, fun _ among _ => among⟩, by simp [offer]⟩
  | succ rounds ih =>
      cases bytes with
      | nil => exact ⟨[], ⟨List.prefix_rfl, s.accepts_nil, fun _ among _ => among⟩, by simp [offer]⟩
      | cons b rest =>
          have taken := s.share_prefix (b :: rest)
          have accepts := s.accepts_share (b :: rest)
          rw [offer]
          split
          · next nothing =>
              refine ⟨[], ⟨List.nil_prefix, s.accepts_nil, fun other among accepted => ?_⟩, ?_⟩
              · obtain rfl := eq_nil_of_share_eq_nil nothing among accepted
                exact List.prefix_rfl
              · simp
          · next c more shared =>
              rw [shared] at taken accepts
              obtain ⟨left, whole⟩ := taken
              have later : (b :: rest).drop (c :: more).length = left := by
                rw [← whole, List.drop_left]
              rw [later]
              have fewer : left.length ≤ rounds := by
                have total := congrArg List.length whole
                simp only [List.length_append, List.length_cons] at total enough
                omega
              obtain ⟨front, fills, onward⟩ := ih (s := s.accept (c :: more)) fewer
              refine ⟨(c :: more) ++ front, ?_, ?_⟩
              · rw [← whole]
                exact fills.append accepts
              · rw [onward, accept_accept, ← whole]
                simp only [List.append_cancel_left_eq]

/-- Of a message a sink gets the longest front that it accepts, and what stops it is known if that
is not all. -/
theorem writeAll_fills (bytes : List UInt8) (s : Sink) :
    ∃ front, s.Fills bytes front ∧ s.writeAll bytes
      = (if front = bytes then .ok () else .error (s.accept front).obstacle, s.accept front) :=
  offer_fills (Nat.le_refl bytes.length)

/-! ### Flushing and closing -/

theorem flushes_flush (s : Sink) : s.flush.2.flushes = s.flushes + 1 := by
  unfold flush
  split <;> rfl

theorem flushes_close (s : Sink) : s.close.2.flushes = s.flushes := by
  unfold close
  split <;> rfl

/-- A flush is marked with what had been written by then. -/
theorem marks_flush (s : Sink) : s.flush.2.marks = .flushed s.written.length :: s.marks := by
  unfold flush written
  rw [List.length_reverse]
  split <;> rfl

/-- A close is marked with what had been written by then. -/
theorem marks_close (s : Sink) : s.close.2.marks = .closed s.written.length :: s.marks := by
  unfold close written
  rw [List.length_reverse]
  split <;> rfl

theorem closes_flush (s : Sink) : s.flush.2.closes = s.closes := by
  unfold flush
  split <;> rfl

theorem closes_close (s : Sink) : s.close.2.closes = s.closes + 1 := by
  unfold close
  split <;> rfl

/-- A flush writes nothing. -/
theorem written_flush (s : Sink) : s.flush.2.written = s.written := by
  unfold flush
  split <;> rfl

theorem written_close (s : Sink) : s.close.2.written = s.written := by
  unfold close
  split <;> rfl

/-! ### Writing and flushing -/

/-- What goes wrong with a message that is written and then flushed, if this front of it goes
through: the rest is refused, or all of it is there and cannot be flushed. -/
def mishap? (s : Sink) (bytes front : List UInt8) : Option Fault :=
  if front = bytes then s.flushFault else some (s.accept front).obstacle

/-- The sink once such a front has gone through.  Only a whole message is flushed. -/
def sent (s : Sink) (bytes front : List UInt8) : Sink :=
  if front = bytes then (s.accept front).flush.2 else s.accept front

theorem written_sent (s : Sink) (bytes front : List UInt8) :
    (s.sent bytes front).written = s.written ++ front := by
  unfold sent
  split
  · rw [written_flush, written_accept]
  · exact written_accept s front

/-- A message that went through is flushed after its last byte. -/
theorem marks_sent (s : Sink) (bytes front : List UInt8) :
    (s.sent bytes front).marks
      = (if front = bytes then [.flushed (s.written ++ front).length] else []) ++ s.marks := by
  unfold sent
  split
  · rw [marks_flush, written_accept]
    rfl
  · rfl

/-- A message is flushed once if all of it went through, and otherwise never. -/
theorem flushes_sent (s : Sink) (bytes front : List UInt8) :
    (s.sent bytes front).flushes = s.flushes + if front = bytes then 1 else 0 := by
  unfold sent
  split
  · exact flushes_flush _
  · rfl

/-- Sending leaves the sink open. -/
theorem closes_sent (s : Sink) (bytes front : List UInt8) :
    (s.sent bytes front).closes = s.closes := by
  unfold sent
  split
  · exact closes_flush _
  · rfl

/-- Nothing goes wrong if all is accepted and can be flushed. -/
theorem Fills.mishap?_eq_none_iff (fills : s.Fills bytes front) :
    s.mishap? bytes front = none ↔ s.Accepts bytes ∧ s.flushFault = none := by
  rw [mishap?, ← fills.eq_iff]
  by_cases whole : front = bytes
  · simp [whole]
  · simp [whole]

/-! ### Sinks that never fail -/

/-- The sink takes all that is offered, however it is portioned, and neither flushing nor
closing it fails. -/
structure Reliable (s : Sink) : Prop where
  unlimited : s.room = none
  moving : s.portion ≠ some 0
  flushes : s.flushFault = none
  closes : s.closeFault = none

/-- A reliable sink accepts anything. -/
theorem Reliable.accepts (reliable : s.Reliable) (bytes : List UInt8) : s.Accepts bytes where
  room n limit := by
    rw [reliable.unlimited] at limit
    cases limit
  moving stuck := absurd stuck reliable.moving

/-- A reliable sink is as reliable after it has accepted something. -/
theorem Reliable.accept (reliable : s.Reliable) (bytes : List UInt8) :
    (s.accept bytes).Reliable where
  unlimited := by rw [Sink.accept, reliable.unlimited, Option.map_none]
  moving := reliable.moving
  flushes := reliable.flushes
  closes := reliable.closes

/-- A whole message gets through to a reliable sink. -/
theorem Reliable.writeAll (reliable : s.Reliable) (bytes : List UInt8) :
    ∃ t, s.writeAll bytes = (.ok (), t) ∧ t.Reliable ∧ t.written = s.written ++ bytes := by
  obtain ⟨front, fills, wrote⟩ := s.writeAll_fills bytes
  have whole : front = bytes := fills.eq_iff.2 (reliable.accepts bytes)
  rw [if_pos whole, whole] at wrote
  exact ⟨s.accept bytes, wrote, reliable.accept bytes, written_accept s bytes⟩

theorem Reliable.flush (reliable : s.Reliable) :
    ∃ t, s.flush = (.ok (), t) ∧ t.written = s.written := by
  have kept := s.written_flush
  rw [Sink.flush, reliable.flushes] at kept ⊢
  exact ⟨_, rfl, kept⟩

end AttachService.Sink
