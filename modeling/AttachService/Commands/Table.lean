/-
Module: AttachService.Commands.Table
Purpose: The commands a client may run, and running them.
Trusted boundary: none
Main exports: Outcome, Handler, CommandTable, CommandTable.register, CommandTable.execute,
  CommandTable.serve
-/
import AttachService.Job
import AttachService.Limits

namespace AttachService

/-- What running a handler comes to.  Either way it may have produced output before. -/
structure Outcome where
  output : String
  /-- The code it returned, or nothing if it panicked. -/
  returned : Option Int32
deriving Repr, Inhabited, DecidableEq

/-- What a command does with its arguments. -/
abbrev Handler : Type := List String → Outcome

/-- Handlers by the names of their commands.  A later registration of a name hides an
earlier one. -/
structure CommandTable where
  registered : List (String × Handler) := []

namespace CommandTable

/-- No commands. -/
def empty : CommandTable := {}

instance : Inhabited CommandTable := ⟨empty⟩

/-- Let `name` run this handler from now on. -/
def register (table : CommandTable) (name : String) (handler : Handler) : CommandTable :=
  ⟨(name, handler) :: table.registered⟩

/-- The handler that `name` runs. -/
def handler? (table : CommandTable) (name : String) : Option Handler :=
  table.registered.lookup name

/-- Whether `name` runs anything. -/
def contains (table : CommandTable) (name : String) : Bool := (table.handler? name).isSome

/-- The reply of a command no handler is known for. -/
def unknownReply (name : String) : Reply :=
  ⟨Limits.unknownCommand, "Operation " ++ name ++ " not recognized!"⟩

/-- The reply of a command whose handler panicked. -/
def panickedReply (name : String) : Reply :=
  ⟨Limits.panickedCommand, "Operation " ++ name ++ " failed"⟩

/-- Run a command.  Output of a handler that panicked is thrown away. -/
def execute (table : CommandTable) (name : String) (args : List String) :
    Reply × List Notice :=
  match table.handler? name with
  | none => (unknownReply name, [])
  | some handler =>
      let outcome := handler args
      match outcome.returned with
      | some code => (⟨code, outcome.output⟩, [])
      | none => (panickedReply name, [.panicked name])

/-- Run the command of a job and answer it. -/
def serve (table : CommandTable) (job : Job) : Channel × List Notice :=
  let (reply, notices) := table.execute job.name job.args
  let (channel, more) := job.complete reply
  (channel, notices ++ more)

end CommandTable

end AttachService
