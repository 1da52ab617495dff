/-
Module: AttachService.Proofs.Wire.Bytewise
Purpose: Reading a request one byte at a time: where the reader is between two bytes, what it
  holds there, and that this is all it needs to go on.
Trusted boundary: none
Main exports: Request.Progress, Request.Progress.step, Request.Progress.run,
  Request.Progress.Reached, Request.Progress.reached_run, Request.Progress.resume,
  Request.Progress.resume_step, Request.Progress.takes, Request.Progress.resume_through,
  Request.read_eq_verdict
-/
import AttachService.Proofs.Wire.Messages
import AttachService.Proofs.Wire.Prompt

namespace AttachService.Request

/-!
`Request.read` is made of readers that each take a whole field or a whole body.  Between two
bytes such a reader is at some place of the request and holds the bytes that have come since it
got there, which is what `Progress` records.  `step` says what one more byte does, and `resume`
what is left of `read` at that place; it is made of the same readers.  `resume_step` ties the two
together, so a run of steps takes `read` through the bytes that arrive.
-/

open Reader

/-- Where the reader of a request is, with what it holds there. -/
inductive Progress where
  /-- In the version field. -/
  | atVersion (held : List UInt8)
  /-- In the name of a version 1 request. -/
  | atName (held : List UInt8)
  /-- In an argument of a version 1 request, after the name and these arguments. -/
  | atArgument (name : String) (given : List String) (held : List UInt8)
  /-- In the size field. -/
  | atSize (held : List UInt8)
  /-- In the body, for which a buffer of this length was set aside. -/
  | atBody (length : Nat) (held : List UInt8)
  /-- At the end: no byte is taken any more. -/
  | answered (said : Except Flaw Request)

namespace Progress

/-! ### One byte -/

/-- A byte comes in a field of at most `bound` bytes.  A NUL ends the field; any other byte is
held, unless there are as many as may be already. -/
def inField (bound : Nat) (held : List UInt8) (stay : List UInt8 → Progress)
    (leave : String → Progress) (b : UInt8) : Progress :=
  if b = 0 then
    match Utf8.decode held with
    | some text => leave text
    | none => .answered (.error .invalidUtf8)
  else if held.length = bound then .answered (.error (.tooLong bound))
  else stay (held ++ [b])

/-- What comes after the version field. -/
def afterVersion (version : String) : Progress :=
  if version = "1" then .atName []
  else if version = "2" then .atSize []
  else .answered (.error (.unsupportedVersion version))

/-- What comes after the name and these arguments. -/
def afterArguments (name : String) (given : List String) : Progress :=
  if given.length = Limits.arguments then .answered (.ok ⟨.v1, name, given⟩)
  else .atArgument name given []

/-- What comes after the size field.  Only now is a buffer set aside. -/
def afterSize (size : String) : Progress :=
  match bodyLength? size with
  | some length => .atBody length []
  | none => .answered (.error (.invalidSize size))

/-- What is said of a whole body. -/
def ofBody (body : List UInt8) : Except Flaw Request :=
  match splitBody body with
  | .ok (name, args) => .ok ⟨.v2, name, args⟩
  | .error flaw => .error flaw

/-- A byte comes in a body. -/
def inBody (length : Nat) (held : List UInt8) (b : UInt8) : Progress :=
  if held.length + 1 = length then .answered (ofBody (held ++ [b]))
  else .atBody length (held ++ [b])

/-- What a byte does. -/
def step : Progress → UInt8 → Progress
  | .atVersion held => inField Limits.headerBytes held .atVersion afterVersion
  | .atName held => inField Limits.nameBytes held .atName fun name => afterArguments name []
  | .atArgument name given held =>
      inField Limits.argumentBytes held (.atArgument name given) fun text =>
        afterArguments name (given ++ [text])
  | .atSize held => inField Limits.headerBytes held .atSize afterSize
  | .atBody length held => inBody length held
  | .answered said => fun _ => .answered said

/-- What is said, once there is something to say. -/
def said? : Progress → Option (Except Flaw Request)
  | .answered said => some said
  | _ => none

/-- What these bytes do, one after the other. -/
def run (p : Progress) (bytes : List UInt8) : Progress := bytes.foldl step p

variable {p : Progress} {b : UInt8} {bytes front rest held : List UInt8} {bound : Nat}
  {stay : List UInt8 → Progress} {leave : String → Progress}

theorem run_cons (p : Progress) (b : UInt8) (rest : List UInt8) :
    p.run (b :: rest) = (p.step b).run rest := rfl

theorem run_append (p : Progress) (front rest : List UInt8) :
    p.run (front ++ rest) = (p.run front).run rest :=
  List.foldl_append

/-- There are three ways on from a field. -/
theorem inField_cases (stay : List UInt8 → Progress) (leave : String → Progress) (b : UInt8)
    (fits : held.length ≤ bound) :
    (∃ said, inField bound held stay leave b = .answered said)
      ∨ (∃ text, b = 0 ∧ held = Utf8.encode text ∧ inField bound held stay leave b = leave text)
      ∨ held.length < bound ∧ inField bound held stay leave b = stay (held ++ [b]) := by
  unfold inField
  by_cases nul : b = 0
  · rw [if_pos nul]
    cases decoded : Utf8.decode held with
    | none => exact .inl ⟨_, rfl⟩
    | some text => exact .inr (.inl ⟨text, nul, Utf8.decode_eq_some_iff.1 decoded, rfl⟩)
  · rw [if_neg nul]
    by_cases full : held.length = bound
    · rw [if_pos full]
      exact .inl ⟨_, rfl⟩
    · rw [if_neg full]
      exact .inr (.inr ⟨Nat.lt_of_le_of_ne fits full, rfl⟩)

/-! ### Where a run gets to -/

/-- After these bytes the reader can be there.  What it holds is within the bounds, and a buffer
has been set aside only after a size field that states its length. -/
inductive Reached : List UInt8 → Progress → Prop where
  | atVersion {held : List UInt8} (fits : held.length ≤ Limits.headerBytes) :
      Reached held (.atVersion held)
  | atName {held : List UInt8} (fits : held.length ≤ Limits.nameBytes) :
      Reached (field "1" ++ held) (.atName held)
  | atArgument {name : String} {given : List String} {held : List UInt8}
      (named : name.utf8ByteSize ≤ Limits.nameBytes)
      (short : ∀ arg ∈ given, arg.utf8ByteSize ≤ Limits.argumentBytes)
      (few : given.length < Limits.arguments) (fits : held.length ≤ Limits.argumentBytes) :
      Reached (field "1" ++ ((name :: given).flatMap field ++ held)) (.atArgument name given held)
  | atSize {held : List UInt8} (fits : held.length ≤ Limits.headerBytes) :
      Reached (field "2" ++ held) (.atSize held)
  | atBody {size : String} {length : Nat} {held : List UInt8} (stated : States size length)
      (room : held.length < length) :
      Reached (field "2" ++ (field size ++ held)) (.atBody length held)
  | answered {bytes : List UInt8} (said : Except Flaw Request) : Reached bytes (.answered said)

/-- In a field, one byte more is held, or the field is over. -/
theorem reached_inField (fits : held.length ≤ bound)
    (within : held.length + 1 ≤ bound → Reached bytes (stay (held ++ [b])))
    (beyond : ∀ text, text.utf8ByteSize ≤ bound → held ++ [b] = field text →
      Reached bytes (leave text)) :
    Reached bytes (inField bound held stay leave b) := by
  rcases inField_cases stay leave b fits with
    ⟨said, finished⟩ | ⟨text, rfl, rfl, finished⟩ | ⟨room, on⟩
  · rw [finished]
    exact .answered said
  · rw [finished]
    rw [Utf8.length_encode] at fits
    exact beyond text fits rfl
  · rw [on]
    exact within room

/-- After the version field the reader is where it may be after these bytes. -/
theorem reached_afterVersion (version : String) :
    Reached (field version) (afterVersion version) := by
  unfold afterVersion
  by_cases first : version = "1"
  · rw [if_pos first, first, ← List.append_nil (field "1")]
    exact .atName (Nat.zero_le _)
  · rw [if_neg first]
    by_cases second : version = "2"
    · rw [if_pos second, second, ← List.append_nil (field "2")]
      exact .atSize (Nat.zero_le _)
    · rw [if_neg second]
      exact .answered _

/-- After an argument that is within its bound the reader is where it may be. -/
theorem reached_afterArguments {name : String} (given : List String)
    (named : name.utf8ByteSize ≤ Limits.nameBytes)
    (short : ∀ arg ∈ given, arg.utf8ByteSize ≤ Limits.argumentBytes)
    (few : given.length ≤ Limits.arguments) :
    Reached (field "1" ++ (name :: given).flatMap field) (afterArguments name given) := by
  unfold afterArguments
  by_cases all : given.length = Limits.arguments
  · rw [if_pos all]
    exact .answered _
  · rw [if_neg all, ← List.append_nil ((name :: given).flatMap field)]
    exact .atArgument named short (Nat.lt_of_le_of_ne few all) (Nat.zero_le _)

/-- After a size field it sets aside a buffer only if that is in order. -/
theorem reached_afterSize {size : String} (short : size.utf8ByteSize ≤ Limits.headerBytes) :
    Reached (field "2" ++ field size) (afterSize size) := by
  unfold afterSize
  cases found : bodyLength? size with
  | none => exact .answered _
  | some length =>
      obtain ⟨numeral, positive, bounded⟩ := bodyLength?_eq_some_iff.1 found
      rw [← List.append_nil (field size)]
      exact .atBody ⟨numeral, short, positive, bounded⟩ positive

/-- One byte more, and the reader is where it can be. -/
theorem Reached.step (reached : Reached bytes p) (b : UInt8) :
    Reached (bytes ++ [b]) (p.step b) := by
  cases reached with
  | atVersion fits =>
      apply reached_inField fits
      · intro room
        exact .atVersion (by rw [List.length_append]; exact room)
      · intro text short whole
        rw [whole]
        exact reached_afterVersion text
  | atName fits =>
      rw [List.append_assoc]
      apply reached_inField fits
      · intro room
        exact .atName (by rw [List.length_append]; exact room)
      · intro text short whole
        have after := reached_afterArguments [] short nofun (Nat.zero_le _)
        rw [List.flatMap_singleton] at after
        rw [whole]
        exact after
  | @atArgument name given held named short few fits =>
      rw [List.append_assoc, List.append_assoc]
      apply reached_inField fits
      · intro room
        exact .atArgument named short few (by rw [List.length_append]; exact room)
      · intro text fits whole
        have all : ∀ arg ∈ given ++ [text], arg.utf8ByteSize ≤ Limits.argumentBytes := by
          intro arg member
          rcases List.mem_append.1 member with before | last
          · exact short arg before
          · rw [List.mem_singleton.1 last]
            exact fits
        have after := reached_afterArguments (given ++ [text]) named all
          (by rw [List.length_append]; exact few)
        rw [← List.cons_append, List.flatMap_append, List.flatMap_singleton] at after
        rw [whole]
        exact after
  | atSize fits =>
      rw [List.append_assoc]
      apply reached_inField fits
      · intro room
        exact .atSize (by rw [List.length_append]; exact room)
      · intro text short whole
        rw [whole]
        exact reached_afterSize short
  | @atBody size length held stated room =>
      change Reached _ (inBody length held b)
      unfold inBody
      by_cases last : held.length + 1 = length
      · rw [if_pos last]
        exact .answered _
      · rw [if_neg last, List.append_assoc, List.append_assoc]
        refine .atBody stated ?_
        rw [List.length_append]
        exact Nat.lt_of_le_of_ne room last
  | answered said => exact .answered said

/-- Wherever the reader is, it may be there after the bytes that came. -/
theorem Reached.run (reached : Reached front p) (bytes : List UInt8) :
    Reached (front ++ bytes) (p.run bytes) := by
  induction bytes generalizing front p with
  | nil =>
      rw [List.append_nil]
      exact reached
  | cons b rest ih =>
      rw [List.append_cons, run_cons]
      exact ih (reached.step b)

/-- Whatever arrives, the reader is where it can be after so much. -/
theorem reached_run (bytes : List UInt8) : Reached bytes ((atVersion []).run bytes) := by
  have start : Reached [] (atVersion []) := .atVersion (Nat.zero_le _)
  exact start.run bytes

/-! ### What is left to read -/

/-- What is left of a field of at most `bound` bytes, and what comes after it. -/
def restOfField (bound : Nat) (held : List UInt8) (more : String → Reader Request) :
    Reader Request :=
  andThen (takeField bound (bound - held.length)) fun bytes =>
    match Utf8.decode (held ++ bytes) with
    | some text => more text
    | none => answer (.error .invalidUtf8)

/-- What is left of a version 1 request after its name and these arguments. -/
def restOfArguments (name : String) (given : List String) : Reader Request :=
  andThen (readFields Limits.argumentBytes (Limits.arguments - given.length)) fun texts =>
    answer (.ok ⟨.v1, name, given ++ texts⟩)

/-- What is left to read from there. -/
def resume : Progress → Reader Request
  | .atVersion held =>
      restOfField Limits.headerBytes held fun version =>
        if version = "1" then readInline
        else if version = "2" then readSized
        else answer (.error (.unsupportedVersion version))
  | .atName held => restOfField Limits.nameBytes held fun name => restOfArguments name []
  | .atArgument name given held =>
      restOfField Limits.argumentBytes held fun text => restOfArguments name (given ++ [text])
  | .atSize held =>
      restOfField Limits.headerBytes held fun size =>
        match bodyLength? size with
        | some length => readBody length
        | none => answer (.error (.invalidSize size))
  | .atBody length held =>
      andThen (ofBytes (Source.exactly (length - held.length))) fun rest =>
        answer (ofBody (held ++ rest))
  | .answered said => answer said

variable {α : Type}

theorem andThen_assoc {β γ : Type} (read : Reader α) (more : α → Reader β) (last : β → Reader γ) :
    (read.andThen more).andThen last = read.andThen fun a => (more a).andThen last := by
  funext s
  unfold andThen
  rcases read s with ⟨e | a, t⟩ <;> rfl

theorem answer_andThen (a : α) (more : α → Reader Request) :
    andThen (answer (.ok a)) more = more a := rfl

/-- A field of which nothing is there is read from its beginning. -/
theorem restOfField_nil (bound : Nat) (more : String → Reader Request) :
    restOfField bound [] more = andThen (readField bound) more := by
  rw [readField_eq, andThen_assoc]
  unfold restOfField
  congr 1
  funext bytes
  rw [List.nil_append]
  cases Utf8.decode bytes <;> rfl

/-- Before the first byte of the name all of it is left to read. -/
theorem resume_atName : (atName []).resume = readInline :=
  (restOfField_nil _ _).trans readInline_eq.symm

theorem resume_atSize : (atSize []).resume = readSized :=
  (restOfField_nil _ _).trans readSized_eq.symm

/-- At the beginning, all of the request is left. -/
theorem resume_start : (atVersion []).resume = read := by
  rw [resume, restOfField_nil, read_eq]

/-- What is left after the version field depends on the version. -/
theorem resume_afterVersion (version : String) :
    (afterVersion version).resume
      = if version = "1" then readInline
        else if version = "2" then readSized
        else answer (.error (.unsupportedVersion version)) := by
  unfold afterVersion
  by_cases first : version = "1"
  · rw [if_pos first, if_pos first, resume_atName]
  · by_cases second : version = "2"
    · rw [if_neg first, if_neg first, if_pos second, if_pos second, resume_atSize]
    · rw [if_neg first, if_neg first, if_neg second, if_neg second, resume]

/-- After some arguments the others are left. -/
theorem resume_afterArguments (name : String) {given : List String}
    (few : given.length ≤ Limits.arguments) :
    (afterArguments name given).resume = restOfArguments name given := by
  unfold afterArguments restOfArguments
  by_cases all : given.length = Limits.arguments
  · rw [if_pos all, all, Nat.sub_self]
    change answer _ = andThen (answer (.ok [])) _
    rw [answer_andThen, List.append_nil]
  · have left : Limits.arguments - given.length = Limits.arguments - (given.length + 1) + 1 := by
      omega
    rw [if_neg all, left, readFields_succ, resume, restOfField_nil, andThen_assoc]
    congr 1
    funext text
    rw [andThen_assoc, restOfArguments, List.length_append]
    congr 1
    funext texts
    rw [answer_andThen, List.append_assoc]
    rfl

/-- After the size field the body is left, or nothing. -/
theorem resume_afterSize (size : String) :
    (afterSize size).resume = match bodyLength? size with
      | some length => readBody length
      | none => answer (.error (.invalidSize size)) := by
  unfold afterSize
  cases bodyLength? size with
  | none => rfl
  | some length =>
      simp only [resume, readBody, List.nil_append, List.length_nil, Nat.sub_zero]
      congr 1
      funext body
      unfold ofBody
      rcases splitBody body with flaw | ⟨name, args⟩ <;> rfl

/-- What comes after a field is read after its NUL, however many bytes there were. -/
theorem goOn_andThen (later : Reader (List UInt8)) (b : UInt8)
    (more : List UInt8 → Reader Request) :
    andThen (goOn later b) more
      = if b = 0 then more [] else andThen later fun bytes => more (b :: bytes) := by
  unfold goOn
  by_cases nul : b = 0
  · rw [if_pos nul, if_pos nul]
    rfl
  · rw [if_neg nul, if_neg nul, andThen_assoc]
    rfl

/-- A field is left one byte at a time. -/
theorem restOfField_eq {more : String → Reader Request} (fits : held.length ≤ bound)
    (staying : ∀ held, (stay held).resume = restOfField bound held more)
    (leaving : ∀ text, (leave text).resume = more text) :
    restOfField bound held more
      = andThen (ofBytes Source.next) fun b => (inField bound held stay leave b).resume := by
  have ended : (match Utf8.decode (held ++ []) with
        | some text => more text
        | none => answer (.error .invalidUtf8))
      = Progress.resume (match Utf8.decode held with
        | some text => leave text
        | none => .answered (.error .invalidUtf8)) := by
    rw [List.append_nil]
    cases Utf8.decode held with
    | none => rfl
    | some text => exact (leaving text).symm
  by_cases full : held.length = bound
  · rw [restOfField, full, Nat.sub_self, takeField_zero, andThen_assoc]
    congr 1
    funext b
    rw [goOn_andThen, ended, inField, if_pos full]
    by_cases nul : b = 0
    · rw [if_pos nul, if_pos nul]
    · rw [if_neg nul, if_neg nul]
      rfl
  · have left : bound - held.length = bound - (held.length + 1) + 1 := by omega
    rw [restOfField, left, takeField_succ, andThen_assoc]
    congr 1
    funext b
    rw [goOn_andThen, ended, inField, if_neg full]
    by_cases nul : b = 0
    · rw [if_pos nul, if_pos nul]
    · rw [if_neg nul, if_neg nul, staying, restOfField, List.length_append]
      congr 1
      funext bytes
      rw [List.append_assoc]
      rfl

/-- A body is left one byte at a time. -/
theorem resume_atBody {length : Nat} (room : held.length < length) :
    (atBody length held).resume
      = andThen (ofBytes Source.next) fun b => (inBody length held b).resume := by
  have left : length - held.length = length - (held.length + 1) + 1 := by omega
  funext s
  rw [resume, left]
  unfold andThen ofBytes
  rw [Source.exactly_succ]
  rcases s.next with ⟨stop | b, t⟩
  · rfl
  · dsimp only
    unfold inBody
    by_cases last : held.length + 1 = length
    · rw [if_pos last, last, Nat.sub_self, Source.exactly_zero]
      rfl
    · rw [if_neg last, resume, List.length_append]
      unfold andThen ofBytes
      rw [List.length_singleton]
      rcases t.exactly (length - (held.length + 1)) with ⟨stop | rest, u⟩
      · rfl
      · dsimp only
        rw [List.append_assoc]
        rfl

/-- The reader goes on by taking a byte, and then it is where that byte leads. -/
theorem resume_step (reached : Reached bytes p) (unsaid : p.said? = none) :
    p.resume = andThen (ofBytes Source.next) fun b => (p.step b).resume := by
  cases reached with
  | atVersion fits => exact restOfField_eq fits (fun _ => rfl) resume_afterVersion
  | atName fits =>
      exact restOfField_eq fits (fun _ => rfl)
        fun name => resume_afterArguments name (Nat.zero_le _)
  | atArgument named short few fits =>
      refine restOfField_eq fits (fun _ => rfl) fun text => resume_afterArguments _ ?_
      rw [List.length_append]
      exact few
  | atSize fits => exact restOfField_eq fits (fun _ => rfl) resume_afterSize
  | atBody stated room => exact resume_atBody room
  | answered said => cases unsaid

/-! ### Through all that arrives -/

/-- The bytes that are taken of those that arrive: all, or those up to an answer. -/
def takes : Progress → List UInt8 → List UInt8
  | _, [] => []
  | p, b :: rest =>
      match p.said? with
      | some _ => []
      | none => b :: takes (p.step b) rest

theorem eq_of_said {said : Except Flaw Request} (finished : p.said? = some said) :
    p = .answered said := by
  cases p <;> cases finished
  rfl

/-- An answer is final. -/
theorem run_of_said {said : Except Flaw Request} (finished : p.said? = some said)
    (bytes : List UInt8) : p.run bytes = p := by
  obtain rfl := eq_of_said finished
  induction bytes with
  | nil => rfl
  | cons b rest ih => exact ih

/-- What is not taken makes no difference. -/
theorem run_takes (p : Progress) (bytes : List UInt8) : p.run (p.takes bytes) = p.run bytes := by
  induction bytes generalizing p with
  | nil => rfl
  | cons b rest ih =>
      rw [takes]
      cases finished : p.said? with
      | some said => exact (run_of_said finished _).symm
      | none => exact ih (p.step b)

/-- Without an answer, all bytes are taken. -/
theorem takes_of_unsaid (unsaid : (p.run bytes).said? = none) : p.takes bytes = bytes := by
  induction bytes generalizing p with
  | nil => rfl
  | cons b rest ih =>
      rw [takes]
      cases finished : p.said? with
      | some said =>
          rw [run_of_said finished, finished] at unsaid
          cases unsaid
      | none => exact congrArg (b :: ·) (ih unsaid)

/-- Behind an answer nothing is taken. -/
theorem takes_append {said : Except Flaw Request} (finished : (p.run front).said? = some said)
    (rest : List UInt8) : p.takes (front ++ rest) = p.takes front := by
  induction front generalizing p with
  | nil =>
      cases rest with
      | nil => rfl
      | cons b rest =>
          change p.said? = some said at finished
          simp only [List.nil_append, takes, finished]
  | cons b front ih =>
      rw [List.cons_append, takes, takes]
      cases p.said? with
      | some said => rfl
      | none => exact congrArg (b :: ·) (ih finished)

/-- A byte that is taken is the next one, and there was no answer before it. -/
theorem of_cons_prefix_takes (ahead : b :: front <+: p.takes bytes) :
    ∃ rest, bytes = b :: rest ∧ p.said? = none ∧ front <+: (p.step b).takes rest := by
  cases bytes with
  | nil => cases List.prefix_nil.1 ahead
  | cons c rest =>
      rw [takes] at ahead
      cases finished : p.said? with
      | some said =>
          rw [finished] at ahead
          cases List.prefix_nil.1 ahead
      | none =>
          rw [finished] at ahead
          obtain ⟨rfl, later⟩ := List.cons_prefix_cons.1 ahead
          exact ⟨rest, rfl, rfl, later⟩

/-- Before the last byte that is taken there is no answer, so the bytes that are taken are at most
one more than can come without one. -/
theorem length_takes_le {count : Nat}
    (few : ∀ front, front <+: bytes → (p.run front).said? = none → front.length < count) :
    (p.takes bytes).length ≤ count := by
  induction bytes generalizing p count with
  | nil => exact Nat.zero_le _
  | cons b rest ih =>
      rw [takes]
      cases finished : p.said? with
      | some said => exact Nat.zero_le _
      | none =>
          have positive : 0 < count := few [] List.nil_prefix finished
          have fewer : (takes (p.step b) rest).length ≤ count - 1 := by
            apply ih
            intro front ahead unsaid
            have one := few (b :: front) ((List.prefix_cons_inj b).2 ahead) unsaid
            rw [List.length_cons] at one
            omega
          change (takes (p.step b) rest).length + 1 ≤ count
          omega

/-- The bytes that are taken are taken one after the other, and at each of them the reader has
left to do what is left at the place it has got to. -/
theorem resume_through {s : Source} {before : List UInt8} (reached : Reached before p)
    (ahead : front <+: p.takes s.arriving) :
    ∃ t, s.Passes front t ∧ t.ending = s.ending ∧ p.resume s = (p.run front).resume t := by
  induction front generalizing p s before with
  | nil => exact ⟨s, .refl s, rfl, rfl⟩
  | cons b front ih =>
      obtain ⟨rest, arrives, unsaid, later⟩ := of_cons_prefix_takes ahead
      obtain ⟨t, first, passes⟩ := Source.next_of_arriving arrives
      rw [← passes.rest_eq arrives] at later
      obtain ⟨u, through, ends, goes⟩ := ih (reached.step b) later
      refine ⟨u, passes.trans through, ends.trans (Source.ending_of_next first), ?_⟩
      rw [resume_step reached unsaid, run_cons, ← goes]
      simp only [andThen, ofBytes, first]

/-- What is said when these bytes arrive and then this stops the reader. -/
def verdict (p : Progress) (bytes : List UInt8) (stop : Stop) : Except NoRequest Request :=
  match (p.run bytes).said? with
  | some said => said.mapError .flaw
  | none => .error (ofStop stop)

/-- Neither what is behind an answer nor what stops the stream there makes any difference. -/
theorem verdict_append {said : Except Flaw Request} (finished : (p.run front).said? = some said)
    (rest : List UInt8) (stop other : Stop) :
    p.verdict (front ++ rest) stop = p.verdict front other := by
  unfold verdict
  rw [run_append, run_of_said finished, finished]

/-- To resume anywhere comes to what the bytes that are left come to one by one. -/
theorem resume_eq {before : List UInt8} (reached : Reached before p) (s : Source) :
    ∃ t, p.resume s = (p.verdict s.arriving s.ending, t)
      ∧ t.taken = s.taken + (p.takes s.arriving).length := by
  obtain ⟨t, passes, ends, goes⟩ := resume_through reached (List.prefix_refl (p.takes s.arriving))
  rw [run_takes] at goes
  rw [goes, verdict]
  cases finished : (p.run s.arriving).said? with
  | some said =>
      rw [eq_of_said finished]
      exact ⟨t, rfl, passes.taken⟩
  | none =>
      rw [takes_of_unsaid finished] at passes ⊢
      have nothing : t.arriving = [] := passes.rest_eq (List.append_nil _).symm
      obtain ⟨u, stopped, taken⟩ := Source.next_of_arriving_nil nothing
      refine ⟨u, ?_, taken.trans passes.taken⟩
      rw [resume_step (reached.run s.arriving) finished]
      simp only [andThen, ofBytes, stopped, ends]

end Progress

/-- The bytes that arrive decide what is read and how many of them are taken. -/
theorem read_eq_verdict (s : Source) :
    ∃ t, read s = ((Progress.atVersion []).verdict s.arriving s.ending, t)
      ∧ t.taken = s.taken + ((Progress.atVersion []).takes s.arriving).length := by
  rw [← Progress.resume_start]
  exact Progress.resume_eq (Progress.reached_run []) s

end AttachService.Request
