/-
Module: AttachService.Proofs.Wire.Confined
Purpose: However much a peer sends, reading a request comes to an end, takes a bounded number of
  bytes, and holds no more of them than the bounds of its fields and of its body allow.
Trusted boundary: none
Main exports: Request.Frugal, Request.frugal_of_reached, Request.Confined, Request.confined,
  Request.Lively, Request.Settled, Request.Lively.exists_settled, Request.reads_within_bounds
-/
import AttachService.Proofs.Wire.Bytewise

namespace AttachService.Request

/-!
Without an answer the reader is inside of a field or of the body, and `Reached` says how many
bytes have come by then.  One more than the most there can be is what it takes at all.  So a
stream does not have to end for the reader to come to an end: it has its answer within so many
bytes, or met a fault before.
-/

variable {bytes front held : List UInt8} {p : Progress} {texts : List String} {bound : Nat}

/-! ### What is held -/

namespace Progress

/-- The bound of the delimited field that the reader is in, and what it holds of it. -/
def field? : Progress → Option (Nat × List UInt8)
  | .atVersion held => some (Limits.headerBytes, held)
  | .atName held => some (Limits.nameBytes, held)
  | .atArgument _ _ held => some (Limits.argumentBytes, held)
  | .atSize held => some (Limits.headerBytes, held)
  | .atBody .. => none
  | .answered _ => none

/-- The length of the buffer that was set aside for the body. -/
def buffer? : Progress → Option Nat
  | .atBody length _ => some length
  | _ => none

end Progress

/-- What the reader may hold after these bytes. -/
structure Frugal (bytes : List UInt8) (p : Progress) : Prop where
  field : ∀ bound held, p.field? = some (bound, held) → held.length ≤ bound
  /-- There is a buffer only after a size field that states its length and is in order. -/
  buffer : ∀ length, p.buffer? = some length → 1 ≤ length ∧ length ≤ 262144
    ∧ ∃ size held, bytes = Request.field "2" ++ (Request.field size ++ held)
      ∧ States size length ∧ held.length < length

/-- Where the reader may be, it holds no more than it may. -/
theorem frugal_of_reached (reached : p.Reached bytes) : Frugal bytes p := by
  cases reached with
  | atVersion fits | atName fits | atArgument _ _ _ fits | atSize fits =>
      constructor
      · rintro bound held same
        cases same
        exact fits
      · nofun
  | @atBody size length held stated room =>
      constructor
      · nofun
      · rintro _ same
        cases same
        exact ⟨stated.positive, stated.bounded, size, held, rfl, stated, room⟩
  | answered said =>
      constructor
      · nofun
      · nofun

/-! ### How much can come without an answer -/

/-- So many fields of so many bytes at most take that much together. -/
theorem length_flatMap_field_le (short : ∀ text ∈ texts, text.utf8ByteSize ≤ bound) :
    (texts.flatMap field).length ≤ texts.length * (bound + 1) := by
  induction texts with
  | nil => exact Nat.zero_le _
  | cons text texts ih =>
      have fits := short text List.mem_cons_self
      have others := ih fun other member => short other (List.mem_cons_of_mem text member)
      rw [List.flatMap_cons, List.length_append, length_field, List.length_cons, Nat.succ_mul]
      omega

/-- No bytes begin with both version fields. -/
theorem not_sized_of_inline (first : field "1" <+: bytes) : ¬ field "2" <+: bytes := by
  intro second
  rcases List.prefix_or_prefix_of_prefix first second with one | two
  · exact absurd one (by decide)
  · exact absurd two (by decide)

/-- How many bytes can have come without an answer, depending on the version field of what
arrives. -/
structure Waits (bytes front : List UInt8) : Prop where
  total : front.length < 262163
  inline : field "1" <+: bytes → front.length < 3094
  unknown : ¬ field "1" <+: bytes → ¬ field "2" <+: bytes → front.length < 17

/-- A version 1 request is as long as its three arguments and its name at most. -/
theorem waits_inline {later : List UInt8} (few : later.length < 3092)
    (ahead : field "1" ++ later <+: bytes) : Waits bytes (field "1" ++ later) := by
  have least : (field "1" ++ later).length < 3094 := by
    rw [List.length_append]
    exact Nat.add_lt_add_left few 2
  have first : field "1" <+: bytes := (List.prefix_append _ _).trans ahead
  exact ⟨by omega, fun _ => least, fun other => absurd first other⟩

/-- A version 2 request is as long as its size field and the largest body at most. -/
theorem waits_sized {later : List UInt8} (few : later.length < 262161)
    (ahead : field "2" ++ later <+: bytes) : Waits bytes (field "2" ++ later) := by
  have second : field "2" <+: bytes := (List.prefix_append _ _).trans ahead
  refine ⟨?_, fun first => absurd second (not_sized_of_inline first),
    fun _ other => absurd second other⟩
  rw [List.length_append]
  exact Nat.add_lt_add_left few 2

/-- While the reader has no answer, no more bytes have come than that. -/
theorem waits_of_reached (reached : p.Reached front) (unsaid : p.said? = none)
    (ahead : front <+: bytes) : Waits bytes front := by
  cases reached with
  | atVersion fits =>
      have least : front.length < 17 := Nat.lt_succ_of_le fits
      exact ⟨by omega, fun _ => by omega, fun _ _ => least⟩
  | atName fits => exact waits_inline (Nat.lt_of_le_of_lt fits (by decide)) ahead
  | @atArgument name given held named short few fits =>
      apply waits_inline _ ahead
      have arguments := length_flatMap_field_le short
      have all : given.length * (Limits.argumentBytes + 1) ≤ 2 * 1025 :=
        Nat.mul_le_mul_right 1025 (Nat.le_of_lt_succ few)
      have ofName : name.utf8ByteSize ≤ 16 := named
      have ofHeld : held.length ≤ 1024 := fits
      rw [List.length_append, List.flatMap_cons, List.length_append, length_field]
      omega
  | atSize fits => exact waits_sized (Nat.lt_of_le_of_lt fits (by decide)) ahead
  | @atBody size length held stated room =>
      apply waits_sized _ ahead
      have ofSize : size.utf8ByteSize ≤ 16 := stated.short
      have ofBody : length ≤ 262144 := stated.bounded
      rw [List.length_append, length_field]
      omega
  | answered said => cases unsaid

/-! ### Streams that end -/

/-- A request is read from a stream within bounds, whatever arrives on it. -/
structure Confined (s : Source) : Prop where
  /-- Byte by byte the reader gets through what it takes, and after each it has left to do what is
  left at the place it has got to. -/
  through : ∀ front, front <+: (Progress.atVersion []).takes s.arriving →
    ∃ t, s.Passes front t ∧ read s = ((Progress.atVersion []).run front).resume t
  frugal : ∀ front, Frugal front ((Progress.atVersion []).run front)
  taken : (read s).2.taken = s.taken + ((Progress.atVersion []).takes s.arriving).length
  total : (read s).2.taken ≤ s.taken + 262163
  inline : field "1" <+: s.arriving → (read s).2.taken ≤ s.taken + 3094
  unknown : ¬ field "1" <+: s.arriving → ¬ field "2" <+: s.arriving →
    (read s).2.taken ≤ s.taken + 17
  /-- It only fails to come to an end if nothing ever comes any more. -/
  ends : s.ending ≠ .silent → (read s).1 ≠ .error .silent

/-- Something is said unless the stream falls silent. -/
theorem verdict_ne_silent {stop : Stop} (noisy : stop ≠ .silent) (p : Progress)
    (bytes : List UInt8) : p.verdict bytes stop ≠ .error .silent := by
  unfold Progress.verdict
  cases (p.run bytes).said? with
  | some said => cases said <;> nofun
  | none =>
      cases stop with
      | ended => nofun
      | failed fault =>
          dsimp only [ofStop]
          split <;> nofun
      | silent => exact absurd rfl noisy

theorem waits_run (unsaid : ((Progress.atVersion []).run front).said? = none)
    (ahead : front <+: bytes) : Waits bytes front :=
  waits_of_reached (Progress.reached_run front) unsaid ahead

theorem confined (s : Source) : Confined s := by
  obtain ⟨t, said, taken⟩ := read_eq_verdict s
  have few (count : Nat) (within : ∀ front, Waits s.arriving front → front.length < count) :
      (read s).2.taken ≤ s.taken + count := by
    rw [said, taken]
    exact Nat.add_le_add_left
      (Progress.length_takes_le fun front ahead unsaid => within front (waits_run unsaid ahead)) _
  exact {
    through := by
      intro front ahead
      obtain ⟨t, passes, -, goes⟩ :=
        Progress.resume_through (Progress.reached_run []) ahead
      rw [← Progress.resume_start]
      exact ⟨t, passes, goes⟩
    frugal := fun front => frugal_of_reached (Progress.reached_run front)
    taken := by
      rw [said, taken]
    total := few _ fun front waits => waits.total
    inline := fun first => few _ fun front waits => waits.inline first
    unknown := fun one two => few _ fun front waits => waits.unknown one two
    ends := by
      intro noisy
      rw [said]
      exact verdict_ne_silent noisy _ _ }

/-! ### Streams that do not end -/

/-- Something that lets a reader go on or stop. -/
inductive Brings : Delivery → Prop where
  | bytes (b : UInt8) (rest : List UInt8) : Brings (.piece (b :: rest))
  | fault (fault : Fault) : Brings (.fault fault)

/-- An endless stream that never hangs: again and again there are bytes, or a fault. -/
structure Lively (stream : Nat → Delivery) : Prop where
  noisy : ∀ n, stream n ≠ .silence
  moving : ∀ n, ∃ m, n ≤ m ∧ Brings (stream m)

/-- The first deliveries of an endless stream. -/
def opening (stream : Nat → Delivery) (count : Nat) : List Delivery := (List.range count).map stream

/-- With so many deliveries the reader comes to its end, so what comes after them makes no
difference. -/
structure Settled (stream : Nat → Delivery) (count : Nat) (outcome : Except NoRequest Request)
    (taken : Nat) : Prop where
  ends : outcome ≠ .error .silent
  regardless : ∀ rest,
    ∃ t, read { deliveries := opening stream count ++ rest } = (outcome, t) ∧ t.taken = taken
  total : taken ≤ 262163
  inline : field "1" <+: Source.arrivals (opening stream count) → taken ≤ 3094
  unknown : ¬ field "1" <+: Source.arrivals (opening stream count) →
    ¬ field "2" <+: Source.arrivals (opening stream count) → taken ≤ 17

open Source

variable {stream : Nat → Delivery} {count : Nat}

theorem opening_succ (stream : Nat → Delivery) (count : Nat) :
    opening stream (count + 1) = opening stream count ++ [stream count] := by
  rw [opening, List.range_succ, List.map_append]
  rfl

/-- Later deliveries come after the earlier ones. -/
theorem exists_opening_append {more : Nat} (later : count ≤ more) :
    ∃ rest, opening stream more = opening stream count ++ rest := by
  obtain ⟨extra, rfl⟩ := Nat.exists_eq_add_of_le later
  clear later
  induction extra with
  | zero => exact ⟨[], (List.append_nil _).symm⟩
  | succ extra ih =>
      obtain ⟨rest, longer⟩ := ih
      refine ⟨rest ++ [stream (count + extra)], ?_⟩
      rw [← Nat.add_assoc, opening_succ, longer, List.append_assoc]

/-- Sooner or later there is a fault, or there have been so many bytes. -/
theorem Lively.exists_enough (lively : Lively stream) (wanted : Nat) :
    ∃ count, stopOf (opening stream count) ≠ .ended
      ∨ wanted ≤ (arrivals (opening stream count)).length := by
  -- One more byte is wanted: wait for the next delivery that brings something.
  induction wanted with
  | zero => exact ⟨0, .inr (Nat.zero_le _)⟩
  | succ wanted ih =>
      obtain ⟨count, stops | enough⟩ := ih
      · exact ⟨count, .inl stops⟩
      · obtain ⟨next, later, brings⟩ := lively.moving count
        obtain ⟨between, longer⟩ : ∃ rest, opening stream next = opening stream count ++ rest :=
          exists_opening_append later
        by_cases unstopped : stopOf (opening stream count) = .ended
        · by_cases still : stopOf (opening stream next) = .ended
          · have more := (arrivals_append still [stream next]).1
            have stop := (arrivals_append still [stream next]).2
            rw [← opening_succ] at more stop
            have before := (arrivals_append unstopped between).1
            rw [← longer] at before
            refine ⟨next + 1, ?_⟩
            generalize stream next = delivery at brings more stop
            cases brings with
            | bytes b rest =>
                apply Or.inr
                rw [more, before, List.length_append, List.length_append]
                simp only [arrivals, List.length_append, List.length_cons]
                omega
            | fault fault =>
                apply Or.inl
                rw [stop]
                intro same
                cases same
          · exact ⟨next, .inl still⟩
        · exact ⟨count, .inl unstopped⟩

/-- A stream falls silent only with a delivery of its own. -/
theorem mem_of_stopOf_eq_silent {deliveries : List Delivery}
    (silent : stopOf deliveries = .silent) : .silence ∈ deliveries := by
  induction deliveries with
  | nil => cases silent
  | cons delivery later ih =>
      cases delivery with
      | piece bytes => exact List.mem_cons_of_mem _ (ih silent)
      | pause => exact List.mem_cons_of_mem _ (ih silent)
      | fault fault => cases silent
      | silence => exact List.mem_cons_self

/-- A lively stream never does. -/
theorem Lively.stopOf_ne_silent (lively : Lively stream) (count : Nat) :
    stopOf (opening stream count) ≠ .silent := by
  intro silent
  obtain ⟨n, -, same⟩ := List.mem_map.1 (mem_of_stopOf_eq_silent silent)
  exact lively.noisy n same

/-- With a fault, or with so many bytes, the reader has all it needs. -/
theorem settled_of_enough {deliveries : List Delivery}
    (enough : stopOf deliveries ≠ .ended ∨ 262163 ≤ (arrivals deliveries).length)
    (rest : List Delivery) :
    (Progress.atVersion []).verdict (arrivals (deliveries ++ rest)) (stopOf (deliveries ++ rest))
        = (Progress.atVersion []).verdict (arrivals deliveries) (stopOf deliveries)
      ∧ (Progress.atVersion []).takes (arrivals (deliveries ++ rest))
        = (Progress.atVersion []).takes (arrivals deliveries) := by
  by_cases unstopped : stopOf deliveries = .ended
  · have long := enough.resolve_left (not_not_intro unstopped)
    rw [(arrivals_append unstopped rest).1]
    cases finished : ((Progress.atVersion []).run (arrivals deliveries)).said? with
    | some said =>
        exact ⟨Progress.verdict_append finished _ _ _, Progress.takes_append finished _⟩
    | none =>
        have short := (waits_run finished List.prefix_rfl).total
        omega
  · obtain ⟨same, stop⟩ := arrivals_append_of_stop unstopped rest
    rw [same, stop]
    exact ⟨rfl, rfl⟩

/-- On a lively stream there is an answer at some time. -/
theorem Lively.exists_settled (lively : Lively stream) :
    ∃ count outcome taken, Settled stream count outcome taken := by
  obtain ⟨count, enough⟩ := lively.exists_enough 262163
  have whole := confined { deliveries := opening stream count }
  have taken := whole.taken
  rw [Nat.zero_add] at taken
  have total := whole.total
  have inline := whole.inline
  have unknown := whole.unknown
  rw [taken, Nat.zero_add] at total inline unknown
  exact ⟨count, _, _, {
    ends := verdict_ne_silent (lively.stopOf_ne_silent count) (Progress.atVersion []) _
    regardless := by
      intro rest
      obtain ⟨t, said, taken⟩ := read_eq_verdict { deliveries := opening stream count ++ rest }
      obtain ⟨same, takes⟩ := settled_of_enough enough rest
      refine ⟨t, said.trans (congrArg (·, t) same), ?_⟩
      rw [taken, Nat.zero_add]
      exact congrArg List.length takes
    total := total
    inline := inline
    unknown := unknown }⟩

/-- Whatever a peer sends, reading a request from it comes to an end and stays within bounds. -/
theorem reads_within_bounds :
    (∀ s, Confined s)
      ∧ ∀ stream, Lively stream → ∃ count outcome taken, Settled stream count outcome taken :=
  ⟨confined, fun _ lively => lively.exists_settled⟩

/-- A size that never ends: zeros without end, and a pause before each. -/
def drip : Nat → Delivery
  | 0 => .piece (field "2")
  | n + 1 => if n % 2 = 0 then .pause else .piece [0x30]

/-- Even of such a size the reader takes no more than it has room for. -/
theorem reads_within_bounds_drip :
    Lively drip ∧ ∃ count outcome taken, Settled drip count outcome taken := by
  have lively : Lively drip := by
    constructor
    · intro n
      cases n with
      | zero =>
          rw [drip]
          nofun
      | succ n =>
          rw [drip]
          split <;> nofun
    · intro n
      refine ⟨2 * n + 2, by omega, ?_⟩
      have odd : ¬ (2 * n + 1) % 2 = 0 := by omega
      rw [drip, if_neg odd]
      exact .bytes 0x30 []
  exact ⟨lively, reads_within_bounds.2 drip lively⟩

end AttachService.Request
