/-
Module: AttachService.Wire.Request
Purpose: Requests on a channel: their layout, reading them, and writing them.
Trusted boundary: none
Main exports: Request, Request.read, Request.layout, Request.write
-/
import AttachService.Limits
import AttachService.Stream.Sink
import AttachService.Stream.Source
import AttachService.Text.Numeral
import AttachService.Text.Utf8
import AttachService.Version
import AttachService.Wire.Flaw

namespace AttachService

/-!
A request is made of fields, each a UTF-8 text followed by a NUL byte.

* Version 1: the field `1`, the command, and exactly three arguments.
* Version 2: the field `2`, a field with the decimal length of the body, and the body: the
  command and any number of arguments.

A version 1 field is checked for its length first and for UTF-8 once it is complete.  The
body of a version 2 request is taken as a whole before its fields are looked at.
-/

/-- A request, as it is read from or written to a channel. -/
structure Request where
  version : Version
  name : String
  args : List String
deriving Repr, Inhabited, DecidableEq

/-- Why no request was read. -/
inductive NoRequest where
  | flaw (flaw : Flaw)
  /-- The rest of the request never arrives. -/
  | silent
deriving Repr, Inhabited, DecidableEq

namespace Request

/-! ### Reading -/

/-- A request that stops early is truncated, also when a fault says so. -/
def ofStop : Stop → NoRequest
  | .ended => .flaw .truncated
  | .failed fault =>
      if fault.kind = .unexpectedEnd then .flaw .truncated else .flaw (.io fault)
  | .silent => .silent

/-- Take the bytes of a field and the NUL after them, when `room` more bytes of at most
`bound` may come. -/
def takeField (bound : Nat) : (room : Nat) → Source → Except NoRequest (List UInt8) × Source
  | room, s =>
      match s.next with
      | (.error stop, s) => (.error (ofStop stop), s)
      | (.ok b, s) =>
          if b = 0 then (.ok [], s)
          else
            match room with
            | 0 => (.error (.flaw (.tooLong bound)), s)
            | room + 1 =>
                match takeField bound room s with
                | (.ok bytes, s) => (.ok (b :: bytes), s)
                | (.error e, s) => (.error e, s)

/-- Read a field of at most `bound` bytes. -/
def readField (bound : Nat) (s : Source) : Except NoRequest String × Source :=
  match takeField bound bound s with
  | (.error e, s) => (.error e, s)
  | (.ok bytes, s) =>
      match Utf8.decode bytes with
      | some text => (.ok text, s)
      | none => (.error (.flaw .invalidUtf8), s)

/-- Read so many fields of at most `bound` bytes each. -/
def readFields (bound : Nat) : (count : Nat) → Source → Except NoRequest (List String) × Source
  | 0, s => (.ok [], s)
  | count + 1, s =>
      match readField bound s with
      | (.error e, s) => (.error e, s)
      | (.ok text, s) =>
          match readFields bound count s with
          | (.ok texts, s) => (.ok (text :: texts), s)
          | (.error e, s) => (.error e, s)

/-- The length a size field states, if a body may have it. -/
def bodyLength? (size : String) : Option Nat :=
  (Numeral.natural? (Limits.bodyBytes + 1) size).filter (1 ≤ ·)

/-- Put one byte before the first of some fields, or end a field at a NUL. -/
def splitStep (b : UInt8) (fields : List (List UInt8)) : List (List UInt8) :=
  if b = 0 then [] :: fields
  else
    match fields with
    | [] => [[b]]
    | field :: more => (b :: field) :: more

/-- Cut bytes at the NULs.  There is one part more than there are NULs. -/
def splitAtNul (bytes : List UInt8) : List (List UInt8) :=
  bytes.foldr splitStep [[]]

/-- Decode fields up to the first that is no text. -/
def decodeAll : List (List UInt8) → Except Flaw (List String)
  | fields =>
      match fields.mapM Utf8.decode with
      | some texts => .ok texts
      | none => .error .invalidUtf8

/-- The command and arguments in a body.  Its last field ends like all the others. -/
def splitBody (body : List UInt8) : Except Flaw (String × List String) :=
  if body.getLast? ≠ some 0 then .error .truncated
  else
    match splitAtNul body.dropLast with
    | [] => .error .truncated
    | first :: others =>
        match Utf8.decode first with
        | none => .error .invalidUtf8
        | some name =>
            if Limits.nameBytes < first.length then .error (.tooLong Limits.nameBytes)
            else
              match decodeAll others with
              | .ok args => .ok (name, args)
              | .error flaw => .error flaw

/-- Read what follows the version field `1`. -/
def readInline (s : Source) : Except NoRequest Request × Source :=
  match readField Limits.nameBytes s with
  | (.error e, s) => (.error e, s)
  | (.ok name, s) =>
      match readFields Limits.argumentBytes Limits.arguments s with
      | (.error e, s) => (.error e, s)
      | (.ok args, s) => (.ok ⟨.v1, name, args⟩, s)

/-- Read what follows the version field `2`. -/
def readSized (s : Source) : Except NoRequest Request × Source :=
  match readField Limits.headerBytes s with
  | (.error e, s) => (.error e, s)
  | (.ok size, s) =>
      match bodyLength? size with
      | none => (.error (.flaw (.invalidSize size)), s)
      | some length =>
          match s.exactly length with
          | (.error stop, s) => (.error (ofStop stop), s)
          | (.ok body, s) =>
              match splitBody body with
              | .error flaw => (.error (.flaw flaw), s)
              | .ok (name, args) => (.ok ⟨.v2, name, args⟩, s)

/-- Read one request. -/
def read (s : Source) : Except NoRequest Request × Source :=
  match readField Limits.headerBytes s with
  | (.error e, s) => (.error e, s)
  | (.ok version, s) =>
      if version = "1" then readInline s
      else if version = "2" then readSized s
      else (.error (.flaw (.unsupportedVersion version)), s)

/-! ### Writing -/

/-- The bytes of one field. -/
def field (text : String) : List UInt8 := Utf8.encode text ++ [0]

/-- The arguments of a version 1 request, the missing ones empty. -/
def padded (args : List String) : List String :=
  args ++ List.replicate (Limits.arguments - args.length) ""

/-- The body of a version 2 request. -/
def body (r : Request) : List UInt8 := (r.name :: r.args).flatMap field

/-- The bytes of a request, if it respects the bounds. -/
def layout (r : Request) : Except Flaw (List UInt8) :=
  if Limits.nameBytes < r.name.utf8ByteSize then .error (.tooLong Limits.nameBytes)
  else
    match r.version with
    | .v1 =>
        if Limits.arguments < r.args.length then .error (.tooManyArguments Limits.arguments)
        else if r.args.any (fun arg => Limits.argumentBytes < arg.utf8ByteSize) then
          .error (.tooLong Limits.argumentBytes)
        else .ok (("1" :: r.name :: padded r.args).flatMap field)
    | .v2 =>
        let body := r.body
        if Limits.bodyBytes < body.length then .error (.tooLong Limits.bodyBytes)
        else .ok (field "2" ++ field (Numeral.ofNat body.length) ++ body)

/-- Write one request and flush it.  Nothing is written of a request that breaks a bound. -/
def write (r : Request) (sink : Sink) : Except Flaw Unit × Sink :=
  match r.layout with
  | .error flaw => (.error flaw, sink)
  | .ok bytes =>
      match sink.writeAll bytes with
      | (.error fault, sink) => (.error (.io fault), sink)
      | (.ok (), sink) =>
          match sink.flush with
          | (.error fault, sink) => (.error (.io fault), sink)
          | (.ok (), sink) => (.ok (), sink)

end Request

end AttachService
