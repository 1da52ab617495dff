/-
Module: AttachService.Commands.Session
Purpose: A table of commands that is used again and again, and the buffer its handlers write to.
Trusted boundary: none
Main exports: CommandTable.standard, Session, Session.execute, Session.Act, Session.Answer,
  Session.act, Session.after, Session.trace
-/
import AttachService.Commands.Builtin

namespace AttachService

/-- The commands `getversion`, `properties` and `echo`, whatever is known about the process. -/
def CommandTable.standard (properties : Handler) : CommandTable :=
  ((CommandTable.empty.register "getversion" Builtin.version).register "properties"
    properties).register "echo" Builtin.echo

/-- A table in use.  What a handler pushes goes to the buffer at once, so it is there also when
the handler panics. -/
structure Session where
  table : CommandTable
  /-- What was written for the command that was run last. -/
  buffer : String := ""
  /-- What was reported, the oldest first. -/
  reported : List Notice := []

namespace Session

instance : Inhabited Session := ⟨{ table := default }⟩

/-- Write to the buffer. -/
def push (s : Session) (text : String) : Session := { s with buffer := s.buffer ++ text }

/-- Throw away what is in the buffer. -/
def clear (s : Session) : Session := { s with buffer := "" }

def report (s : Session) (notice : Notice) : Session :=
  { s with reported := s.reported ++ [notice] }

/-- Let a handler write to the buffer.  No code comes back if it panics. -/
def call (s : Session) (handler : Handler) (args : List String) : Option Int32 × Session :=
  ((handler args).returned, s.push (handler args).output)

/-- Run a command.  It begins with an empty buffer, and what is in the buffer at the end is the
output of the reply. -/
def execute (s : Session) (name : String) (args : List String) : Reply × Session :=
  let s := s.clear
  match s.table.handler? name with
  | none =>
      let s := s.push ("Operation " ++ name ++ " not recognized!")
      (⟨Limits.unknownCommand, s.buffer⟩, s)
  | some handler =>
      match s.call handler args with
      | (some code, s) => (⟨code, s.buffer⟩, s)
      | (none, s) =>
          let s := ((s.report (.panicked name)).clear).push ("Operation " ++ name ++ " failed")
          (⟨Limits.panickedCommand, s.buffer⟩, s)

/-- One thing that is done with a table. -/
inductive Act where
  | register (name : String) (handler : Handler)
  | contains (name : String)
  | execute (name : String) (args : List String)

/-- The name it is about. -/
def Act.name : Act → String
  | .register name _ | .contains name | .execute name _ => name

/-- What comes back of it. -/
inductive Answer where
  | done
  | known (yes : Bool)
  | replied (reply : Reply)
deriving Repr, Inhabited, DecidableEq

/-- Do one thing. -/
def act (s : Session) : Act → Answer × Session
  | .register name handler => (.done, { s with table := s.table.register name handler })
  | .contains name => (.known (s.table.contains name), s)
  | .execute name args =>
      let (reply, s) := s.execute name args
      (.replied reply, s)

/-- The session after one thing after the other. -/
def after (s : Session) (acts : List Act) : Session := acts.foldl (fun s a => (s.act a).2) s

/-- One thing after the other, each with what comes back of it. -/
def trace (s : Session) : List Act → List (Act × Answer)
  | [] => []
  | a :: acts => (a, (s.act a).1) :: (s.act a).2.trace acts

end Session

end AttachService
