/-
Module: AttachService.Proofs.Stream.Arrivals
Purpose: What a reader gets depends on the bytes that arrive, not on the pieces they come in.
Trusted boundary: none
Main exports: Source.arriving, Source.ending, Source.Passes, Source.next_of_arriving,
  Source.next_of_arriving_nil, Source.exactly_of_arriving, Source.exactly_of_few,
  Source.exactly_succ, Source.untilEnd_of_ended, Source.untilEnd_of_not_ended
-/
import AttachService.Stream.Source

namespace AttachService.Source

/-- The bytes that arrive before the end, a fault or silence. -/
def arrivals : List Delivery → List UInt8
  | [] => []
  | .piece bytes :: rest => bytes ++ arrivals rest
  | .pause :: rest => arrivals rest
  | .fault _ :: _ => []
  | .silence :: _ => []

/-- The bytes that a reader can still have. -/
def arriving (s : Source) : List UInt8 := arrivals s.deliveries

/-- Why nothing arrives after those bytes. -/
def stopOf : List Delivery → Stop
  | [] => .ended
  | .piece _ :: rest => stopOf rest
  | .pause :: rest => stopOf rest
  | .fault fault :: _ => .failed fault
  | .silence :: _ => .silent

/-- What a reader meets that wants more than there is. -/
def ending (s : Source) : Stop := stopOf s.deliveries

@[simp] theorem arriving_ofBytes (bytes : List UInt8) : (ofBytes bytes).arriving = bytes := by
  simp [ofBytes, arriving, arrivals]

@[simp] theorem ending_ofBytes (bytes : List UInt8) : (ofBytes bytes).ending = .ended := rfl

/-- Deliveries without a stop let those after them through. -/
theorem arrivals_append {first : List Delivery} (unstopped : stopOf first = .ended)
    (rest : List Delivery) :
    arrivals (first ++ rest) = arrivals first ++ arrivals rest
      ∧ stopOf (first ++ rest) = stopOf rest := by
  induction first with
  | nil => exact ⟨rfl, rfl⟩
  | cons delivery later ih =>
      cases delivery with
      | piece bytes =>
          obtain ⟨arrive, stop⟩ := ih unstopped
          refine ⟨?_, stop⟩
          rw [List.cons_append, arrivals, arrivals, arrive, List.append_assoc]
      | pause => exact ih unstopped
      | fault | silence => cases unstopped

/-- Behind a stop nothing arrives. -/
theorem arrivals_append_of_stop {first : List Delivery} (stops : stopOf first ≠ .ended)
    (rest : List Delivery) :
    arrivals (first ++ rest) = arrivals first ∧ stopOf (first ++ rest) = stopOf first := by
  induction first with
  | nil => exact absurd rfl stops
  | cons delivery later ih =>
      cases delivery with
      | piece bytes =>
          obtain ⟨arrive, stop⟩ := ih stops
          exact ⟨congrArg (bytes ++ ·) arrive, stop⟩
      | pause => exact ih stops
      | fault | silence => exact ⟨rfl, rfl⟩

/-- From `s` to `t` a reader has taken these bytes, and no more. -/
structure Passes (s : Source) (bytes : List UInt8) (t : Source) : Prop where
  arriving : s.arriving = bytes ++ t.arriving
  taken : t.taken = s.taken + bytes.length

variable {s t u : Source} {b : UInt8} {bytes more rest : List UInt8} {deliveries : List Delivery}

theorem Passes.refl (s : Source) : s.Passes [] s := ⟨rfl, rfl⟩

theorem Passes.trans (first : s.Passes bytes t) (second : t.Passes more u) :
    s.Passes (bytes ++ more) u where
  arriving := by rw [first.arriving, second.arriving, List.append_assoc]
  taken := by rw [second.taken, first.taken, List.length_append, Nat.add_assoc]

/-- What was taken of what arrives decides what is left. -/
theorem Passes.rest_eq (passes : s.Passes bytes t) (arrives : s.arriving = bytes ++ rest) :
    t.arriving = rest := by
  rw [passes.arriving] at arrives
  exact List.append_cancel_left arrives

/-! ### One byte -/

/-- The first byte may come after any number of pauses and empty pieces. -/
theorem firstByte_of_arrivals (arrives : arrivals deliveries = b :: rest) :
    ∃ left, firstByte deliveries = (.ok b, left) ∧ arrivals left = rest := by
  induction deliveries with
  | nil => cases arrives
  | cons delivery later ih =>
      cases delivery with
      | piece front =>
          cases front with
          | nil => exact ih arrives
          | cons c front =>
              obtain ⟨rfl, rfl⟩ := List.cons.inj arrives
              exact ⟨.piece front :: later, rfl, rfl⟩
      | pause => exact ih arrives
      | fault => cases arrives
      | silence => cases arrives

/-- A reader of one byte takes the first that arrives. -/
theorem next_of_arriving (arrives : s.arriving = b :: rest) :
    ∃ t, s.next = (.ok b, t) ∧ s.Passes [b] t := by
  obtain ⟨left, first, beyond⟩ := firstByte_of_arrivals arrives
  refine ⟨{ deliveries := left, taken := s.taken + 1 }, by rw [next, first], ?_, rfl⟩
  rw [arrives, ← beyond]
  rfl

/-- Taking a byte does not change what comes after all of them. -/
theorem stopOf_of_firstByte {left : List Delivery} (first : firstByte deliveries = (.ok b, left)) :
    stopOf left = stopOf deliveries := by
  induction deliveries with
  | nil => cases first
  | cons delivery later ih =>
      cases delivery with
      | piece front =>
          cases front with
          | nil => exact ih first
          | cons c front =>
              cases first
              rfl
      | pause => exact ih first
      | fault => cases first
      | silence => cases first

/-- How the stream ends does not change as it is read. -/
theorem ending_of_next (first : s.next = (.ok b, t)) : t.ending = s.ending := by
  unfold next at first
  split at first
  · next found =>
      cases first
      exact stopOf_of_firstByte found
  · cases first

/-- If no byte arrives, a reader meets what stops the stream. -/
theorem firstByte_of_arrivals_nil (nothing : arrivals deliveries = []) :
    ∃ left, firstByte deliveries = (.error (stopOf deliveries), left) := by
  induction deliveries with
  | nil => exact ⟨[], rfl⟩
  | cons delivery later ih =>
      cases delivery with
      | piece front =>
          obtain ⟨rfl, beyond⟩ := List.append_eq_nil_iff.1 nothing
          exact ih beyond
      | pause => exact ih nothing
      | fault fault => exact ⟨later, rfl⟩
      | silence => exact ⟨.silence :: later, rfl⟩

/-- Whoever wants a byte when none arrives meets the end, and takes nothing. -/
theorem next_of_arriving_nil (nothing : s.arriving = []) :
    ∃ t, s.next = (.error s.ending, t) ∧ t.taken = s.taken := by
  obtain ⟨left, first⟩ := firstByte_of_arrivals_nil nothing
  exact ⟨{ s with deliveries := left }, by rw [next, first, ending], rfl⟩

/-! ### A fixed number of bytes -/

/-- A reader takes what it wants of a piece, and goes on with what it wants yet. -/
theorem gather_piece (bytes : List UInt8) (later : List Delivery) {front : List UInt8}
    (nonempty : front ≠ []) (reversed : List UInt8) :
    gather (.piece bytes :: later) front.length reversed =
      if front.length - (bytes.take front.length).length = 0 then
        ⟨(bytes.take front.length).reverse ++ reversed, none,
          .piece (bytes.drop front.length) :: later⟩
      else
        gather later (front.length - (bytes.take front.length).length)
          ((bytes.take front.length).reverse ++ reversed) := by
  cases front with
  | nil => exact absurd rfl nonempty
  | cons c front => rfl

/-- A reader that wants no more than arrives gets it, whatever pieces it comes in. -/
theorem gather_of_arrivals {front : List UInt8} (arrives : arrivals deliveries = front ++ rest)
    (reversed : List UInt8) :
    ∃ left, gather deliveries front.length reversed = ⟨front.reverse ++ reversed, none, left⟩
      ∧ arrivals left = rest := by
  induction deliveries generalizing front reversed with
  | nil =>
      obtain ⟨rfl, rfl⟩ := List.append_eq_nil_iff.1 arrives.symm
      exact ⟨[], rfl, rfl⟩
  | cons delivery later ih =>
      by_cases empty : front = []
      · subst empty
        exact ⟨delivery :: later, by cases delivery <;> rfl, arrives⟩
      · cases delivery with
        | piece bytes =>
            rw [gather_piece bytes later empty]
            rcases List.append_eq_append_iff.1 arrives with ⟨more, rfl, beyond⟩ | ⟨excess, rfl, rfl⟩
            · -- The piece is used up.
              rw [List.take_of_length_le (by simp), List.drop_of_length_le (by simp),
                List.length_append, Nat.add_sub_cancel_left, List.reverse_append]
              by_cases last : more = []
              · subst last
                exact ⟨.piece [] :: later, rfl, beyond⟩
              · rw [if_neg (by simpa using last), List.append_assoc]
                exact ih beyond _
            · -- The piece holds all that is wanted.
              rw [List.take_left, List.drop_left, Nat.sub_self, if_pos rfl]
              exact ⟨.piece excess :: later, rfl, rfl⟩
        | pause =>
            cases front with
            | nil => exact absurd rfl empty
            | cons c front => exact ih arrives reversed
        | fault => exact absurd (List.append_eq_nil_iff.1 arrives.symm).1 empty
        | silence => exact absurd (List.append_eq_nil_iff.1 arrives.symm).1 empty

/-- A reader of so many bytes takes these and leaves the others. -/
theorem exactly_of_arriving (arrives : s.arriving = bytes ++ rest) :
    ∃ t, s.exactly bytes.length = (.ok bytes, t) ∧ s.Passes bytes t := by
  obtain ⟨left, gathered, beyond⟩ := gather_of_arrivals arrives []
  refine ⟨{ deliveries := left, taken := s.taken + bytes.length }, ?_, ?_, rfl⟩
  · rw [exactly, gathered]
    simp
  · rw [arrives, ← beyond]
    rfl

/-- Gathering does not change what comes after all the bytes. -/
theorem stopOf_of_gather {wanted : Nat} {reversed : List UInt8}
    (all : (gather deliveries wanted reversed).missing = none) :
    stopOf (gather deliveries wanted reversed).rest = stopOf deliveries := by
  induction deliveries generalizing wanted reversed with
  | nil =>
      cases wanted with
      | zero => rfl
      | succ wanted => cases all
  | cons delivery later ih =>
      cases wanted with
      | zero => cases delivery <;> rfl
      | succ wanted =>
          cases delivery with
          | piece bytes =>
              rw [gather] at all ⊢
              split at all
              · next enough =>
                  rw [if_pos enough]
                  rfl
              · next more =>
                  rw [if_neg more]
                  exact ih all
          | pause => exact ih all
          | fault | silence => cases all

theorem ending_of_exactly {count : Nat} (whole : s.exactly count = (.ok bytes, t)) :
    t.ending = s.ending := by
  unfold exactly at whole
  simp only at whole
  split at whole
  · next all =>
      cases whole
      exact stopOf_of_gather all
  · cases whole

/-- What is missing is what does not arrive. -/
theorem gather_of_few {wanted : Nat} (few : (arrivals deliveries).length < wanted)
    (reversed : List UInt8) :
    (gather deliveries wanted reversed).missing
      = some (wanted - (arrivals deliveries).length, stopOf deliveries) := by
  induction deliveries generalizing wanted reversed with
  | nil =>
      cases wanted with
      | zero => cases few
      | succ wanted => rfl
  | cons delivery later ih =>
      cases wanted with
      | zero => cases few
      | succ wanted =>
          cases delivery with
          | piece bytes =>
              rw [arrivals, List.length_append] at few
              have whole : bytes.take (wanted + 1) = bytes :=
                List.take_of_length_le (by omega)
              have more : ¬ wanted + 1 - bytes.length = 0 := by omega
              simp only [gather, whole, if_neg more, stopOf, arrivals, List.length_append]
              rw [ih (by omega), Nat.sub_sub]
          | pause => exact ih few reversed
          | fault | silence => rfl

/-- Whoever wants more bytes than arrive takes them all and meets the end. -/
theorem exactly_of_few {count : Nat} (few : s.arriving.length < count) :
    ∃ t, s.exactly count = (.error s.ending, t) ∧ t.taken = s.taken + s.arriving.length := by
  have short := gather_of_few few []
  have missing : count - (count - s.arriving.length) = s.arriving.length := by omega
  simp only [exactly, short]
  exact ⟨_, rfl, congrArg (s.taken + ·) missing⟩

/-! ### A fixed number of bytes, the first and then the others -/

/-- What was gathered before makes no difference to what is gathered. -/
theorem gather_reversed (deliveries : List Delivery) (wanted : Nat) (reversed : List UInt8) :
    gather deliveries wanted reversed
      = { gather deliveries wanted [] with
          reversed := (gather deliveries wanted []).reversed ++ reversed } := by
  induction deliveries generalizing wanted reversed with
  | nil => cases wanted <;> rfl
  | cons delivery later ih =>
      cases wanted with
      | zero => cases delivery <;> rfl
      | succ wanted =>
          cases delivery with
          | piece bytes =>
              rw [gather, gather]
              split
              · simp
              · rw [ih _ (_ ++ reversed), ih _ (_ ++ [])]
                simp
          | pause => exact ih (wanted + 1) reversed
          | fault | silence => rfl

/-- The first byte that is gathered is the first to arrive. -/
theorem gather_succ (deliveries : List Delivery) (wanted : Nat) (reversed : List UInt8) :
    gather deliveries (wanted + 1) reversed = match firstByte deliveries with
      | (.ok b, left) => gather left wanted (b :: reversed)
      | (.error stop, left) => ⟨reversed, some (wanted + 1, stop), left⟩ := by
  induction deliveries with
  | nil => rfl
  | cons delivery later ih =>
      cases delivery with
      | piece bytes =>
          cases bytes with
          | nil => exact ih
          | cons b bytes =>
              cases wanted with
              | zero => simp [gather, firstByte]
              | succ wanted =>
                  simp only [gather, firstByte, List.take_succ_cons, List.length_cons,
                    Nat.add_sub_add_right, List.drop_succ_cons, List.reverse_cons,
                    List.append_assoc, List.singleton_append]
      | pause => exact ih
      | fault | silence => rfl

/-- No more is missing than was wanted. -/
theorem le_of_missing {wanted missing : Nat} {stop : Stop} {reversed : List UInt8}
    (short : (gather deliveries wanted reversed).missing = some (missing, stop)) :
    missing ≤ wanted := by
  by_cases few : (arrivals deliveries).length < wanted
  · rw [gather_of_few few] at short
    cases short
    exact Nat.sub_le wanted _
  · have enough : ((arrivals deliveries).take wanted).length = wanted :=
      List.length_take_of_le (Nat.le_of_not_lt few)
    obtain ⟨left, whole, -⟩ := gather_of_arrivals
      (List.take_append_drop wanted (arrivals deliveries)).symm reversed
    rw [enough] at whole
    rw [whole] at short
    cases short

theorem exactly_zero (s : Source) : s.exactly 0 = (.ok [], s) := by
  obtain ⟨deliveries, taken⟩ := s
  cases deliveries <;> rfl

/-- Many bytes are one, and then the others. -/
theorem exactly_succ (s : Source) (count : Nat) :
    s.exactly (count + 1) = match s.next with
      | (.error stop, t) => (.error stop, t)
      | (.ok b, t) =>
          match t.exactly count with
          | (.error stop, u) => (.error stop, u)
          | (.ok bytes, u) => (.ok (b :: bytes), u) := by
  unfold exactly next
  rw [gather_succ]
  rcases firstByte s.deliveries with ⟨stop | b, left⟩
  · simp
  · dsimp only
    rw [gather_reversed left count [b]]
    rcases short : (gather left count []).missing with - | ⟨missing, stop⟩
    · simp [Nat.add_assoc, Nat.add_comm 1]
    · have few := le_of_missing short
      have sum : count + 1 - missing = 1 + (count - missing) := by omega
      simp [sum, Nat.add_assoc]

/-! ### Everything up to the end -/

/-- The end is reached, unless something else stops the reader. -/
def reached : Stop → Except Stop Unit
  | .ended => .ok ()
  | stop => .error stop

/-- A reader that wants everything gets all that arrives, and learns what stopped it. -/
theorem gatherAll_eq (deliveries : List Delivery) (reversed : List UInt8) :
    ∃ left, gatherAll deliveries reversed
      = (reached (stopOf deliveries), (arrivals deliveries).reverse ++ reversed, left) := by
  induction deliveries generalizing reversed with
  | nil => exact ⟨[], rfl⟩
  | cons delivery later ih =>
      cases delivery with
      | piece bytes =>
          obtain ⟨left, all⟩ := ih (bytes.reverse ++ reversed)
          refine ⟨left, ?_⟩
          rw [gatherAll, all, arrivals, List.reverse_append, List.append_assoc]
          rfl
      | pause => exact ih reversed
      | fault fault => exact ⟨later, rfl⟩
      | silence => exact ⟨.silence :: later, rfl⟩

/-- At the end of a stream nothing was left out. -/
theorem untilEnd_of_ended (ends : s.ending = .ended) :
    ∃ t, s.untilEnd = (.ok s.arriving, t) := by
  obtain ⟨left, all⟩ := gatherAll_eq s.deliveries []
  rw [show stopOf s.deliveries = .ended from ends, List.append_nil] at all
  simp only [untilEnd, all, reached, List.reverse_reverse]
  exact ⟨_, rfl⟩

/-- Whoever wants everything up to an end that does not come meets what comes instead. -/
theorem untilEnd_of_not_ended (goesOn : s.ending ≠ .ended) :
    ∃ t, s.untilEnd = (.error s.ending, t) := by
  obtain ⟨left, all⟩ := gatherAll_eq s.deliveries []
  have short : reached (stopOf s.deliveries) = .error s.ending := by
    unfold ending at goesOn ⊢
    cases stop : stopOf s.deliveries with
    | ended => exact absurd stop goesOn
    | failed fault => rfl
    | silent => rfl
  simp only [untilEnd, all, short]
  exact ⟨_, rfl⟩

end AttachService.Source
