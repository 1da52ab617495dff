/-
Module: AttachService.Wire.Reply
Purpose: Replies on a channel: a result line, then output up to the end of the stream.
Trusted boundary: none
Main exports: Reply, Reply.layout, Reply.write, Reply.parse, Reply.read
-/
import AttachService.Stream.Sink
import AttachService.Stream.Source
import AttachService.Text.Blank
import AttachService.Text.Numeral
import AttachService.Text.Utf8
import AttachService.Wire.Flaw

namespace AttachService

/-- The outcome of a command: zero on success, and any text. -/
structure Reply where
  result : Int32
  output : String
deriving Repr, Inhabited, DecidableEq

/-- Why no reply was read. -/
inductive NoReply where
  | flaw (flaw : Flaw)
  /-- The end of the reply never arrives. -/
  | silent
deriving Repr, Inhabited, DecidableEq

namespace Reply

/-! ### Writing -/

/-- The line with the result code. -/
def resultLine (result : Int32) : String := Numeral.ofInt result.toInt ++ "\n"

/-- The bytes of a reply. -/
def layout (r : Reply) : List UInt8 := Utf8.encode (resultLine r.result) ++ Utf8.encode r.output

/-- Write a reply: first its line, then its output.  Whoever writes it has to flush it. -/
def write (r : Reply) (sink : Sink) : Except Flaw Unit × Sink :=
  match sink.writeAll (Utf8.encode (resultLine r.result)) with
  | (.error fault, sink) => (.error (.io fault), sink)
  | (.ok (), sink) =>
      match sink.writeAll (Utf8.encode r.output) with
      | (.error fault, sink) => (.error (.io fault), sink)
      | (.ok (), sink) => (.ok (), sink)

/-! ### Reading -/

/-- All result codes are nearer to zero than this. -/
def resultBound : Nat := UInt32.size / 2 + 1

/-- The integer, if it fits a result code. -/
def result? (n : Int) : Option Int32 :=
  if Int32.minValue.toInt ≤ n ∧ n ≤ Int32.maxValue.toInt then some (Int32.ofInt n) else none

/-- The result code a line states, blanks around it aside. -/
def resultCode? (line : String) : Option Int32 :=
  (Numeral.integer? resultBound (Text.trim line)).bind result?

/-- The text before the first newline and the text after it. -/
def splitLine (text : String) : Option (String × String) :=
  let line := text.toList.takeWhile (· ≠ '\n')
  match text.toList.drop line.length with
  | [] => none
  | _ :: output => some (String.ofList line, String.ofList output)

/-- The reply these bytes are. -/
def parse (bytes : List UInt8) : Except Flaw Reply :=
  match Utf8.decode bytes with
  | none => .error .invalidUtf8
  | some text =>
      match splitLine text with
      | none => .error (.invalidReply .noResultLine)
      | some (line, output) =>
          match resultCode? line with
          | none => .error (.invalidReply (.badResultCode line))
          | some result => .ok ⟨result, output⟩

/-- Read a reply, up to the end of the source. -/
def read (s : Source) : Except NoReply Reply × Source :=
  match s.untilEnd with
  | (.error (.failed fault), s) => (.error (.flaw (.io fault)), s)
  | (.error _, s) => (.error .silent, s)
  | (.ok bytes, s) =>
      match parse bytes with
      | .ok reply => (.ok reply, s)
      | .error flaw => (.error (.flaw flaw), s)

end Reply

end AttachService
